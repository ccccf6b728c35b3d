import ControlHarness.Contracts.Models
import ControlHarness.General.Yaml

/-!
The admission of tasks by the policy bundle (`policy.py`).

The five documents are arbitrary parsed YAML values; what the checks raise on a
malformed one is kept apart from a `PolicyError`.

* `PolicyBundle`: the documents.
* `assertRouteAllowed`, `assertTaskAllowed`: the checks, in the order of the
  source.
* `bundle`: the documents of the repository.
-/

namespace ControlHarness

/-- What the admission raises: a `PolicyError`, an error of Python on a
malformed document, or a `ValueError`. -/
inductive PolicyRaised where
  | policy (detail : String)
  | yaml (e : YamlError)
  | valueError
  deriving DecidableEq, Repr

/-- The policy documents. -/
structure PolicyBundle where
  catalog : Yaml
  routingPolicy : Yaml
  agentPolicy : Yaml
  dataPolicy : Yaml
  taskAuthorityPolicy : Yaml

namespace Policy

/-- The result of a check. -/
abbrev Check := Except PolicyRaised

/-- An operation on a document. -/
def read {α : Type} (x : Except YamlError α) : Check α := x.mapError .yaml

/-- Raise a `PolicyError` unless the condition holds. -/
def require (ok : Bool) (detail : String) : Check Unit :=
  if ok then .ok () else .error (.policy detail)

/-- `{}`. -/
def noEntries : Yaml := .map [] []

/-- `DataClassification` and its members. -/
def dataClassifications : List DataClassification :=
  [.internal, .confidentialLocal, .confidentialCloudApproved, .secret]

/-- `ProviderClass` and its members. -/
def providerClasses : List ProviderClass := [.localModel, .subscriptionOauth, .apiMetered]

/-- `ProviderClass(value)`. -/
def providerClass (value : Yaml) : Check ProviderClass :=
  match providerClasses.find? fun p => some p.value = value.asText with
  | some p => .ok p
  | none => .error .valueError

/-- The body of the loop of `assert_route_allowed`. -/
def checkRef (routing : ModelRouting) (models : Yaml) (classification : DataClassification)
    (ref : String) : Check Unit := do
  let model ← read (models.getText ref)
  require (!model.isNull) ("model_ref '" ++ ref ++ "' is not in the model catalog")
  let providerText ← read (model.getText "provider_class")
  require (providerText.asText ≠ some ProviderClass.apiMetered.value)
    ("model_ref '" ++ ref ++ "' is api_metered and forbidden")
  let connection ← read (model.getText "connection_status")
  require (connection.asText = some "verified")
    ("model_ref '" ++ ref ++ "' is not a verified route")
  let provider ← providerClass (← read (model.index "provider_class"))
  require (provider ∈ routing.permittedProviderClasses)
    ("model_ref '" ++ ref ++ "' has provider_class outside permitted_provider_classes")
  let allowedData ← read (model.getText "allowed_data_classes")
  require allowedData.isList ("model_ref '" ++ ref ++ "' has no allowed_data_classes policy")
  let allowed ← read ((Yaml.ofString classification.value).isIn allowedData)
  require allowed
    ("model_ref '" ++ ref ++ "' is forbidden for data class '" ++ classification.value ++ "'")

/-- `assert_route_allowed`. -/
def assertRouteAllowed (routing : ModelRouting) (catalog : Yaml)
    (classification : DataClassification) : Check Unit := do
  let models ← read (catalog.getD "models" noEntries)
  require (routing.defaultRoute ≠ []) "default_route is empty"
  routing.defaultRoute.forM (checkRef routing models classification)

/-- The body of the loop of `assert_task_allowed` over the catalog. -/
def checkCatalogEntry (providerRules : Yaml) (entry : Scalar × Yaml) : Check Unit := do
  let provider ← read (entry.2.getText "provider_class")
  let known ← read (provider.isIn providerRules)
  require known ("model_ref '" ++ entry.1.text ++ "' has an unknown provider_class policy")
  let allowed ← read ((← read (entry.2.getD "allowed_data_classes" (.list []))).toSet)
  -- a known provider class is one of the texts that the rules are keyed by
  let rule ← read (providerRules.index (provider.asText.getD ""))
  let expected ← read rule.toSet
  require (Yaml.sameSet allowed expected)
    ("model_ref '" ++ entry.1.text ++ "' data policy conflicts with provider_class")

/-- The part of `assert_task_allowed` on the authority, the data policy and the
catalog. -/
def checkBundle (bundle : PolicyBundle) : Check Unit := do
  let authority ← read (bundle.taskAuthorityPolicy.getText "authoritative_system")
  require (authority.asText = some "control_harness")
    "control_harness must remain the runtime authority"
  let projections ← read (bundle.taskAuthorityPolicy.getD "projections" noEntries)
  let panda ← read (projections.getD "pandaos_session_tasks" noEntries)
  let writeback ← read (panda.getText "runtime_status_writeback")
  require (writeback.asText = some "forbidden")
    "PandaOS task projection must not write runtime status"
  let classifications ← read ((← read (bundle.dataPolicy.getD "classifications" noEntries)).toSet)
  require (Yaml.sameSet classifications (dataClassifications.map fun d => .str d.value))
    "data classification policy is incomplete"
  let providerRules ← read (bundle.dataPolicy.getD "provider_classes" noEntries)
  let providers ← read providerRules.toSet
  require (Yaml.sameSet providers (providerClasses.map fun p => .str p.value))
    "data provider-class policy is incomplete"
  let models ← read ((← read (bundle.catalog.getD "models" noEntries)).items)
  models.forM (checkCatalogEntry providerRules)

/-- The part of `assert_task_allowed` on the executor of the card: its entry in
the agent policy. -/
def checkExecutor (bundle : PolicyBundle) (card : TaskCardV1) : Check Yaml := do
  let executors ← read (bundle.agentPolicy.getD "executors" noEntries)
  let executor ← read (executors.getText card.ownerRole.value)
  require executor.isMap ("owner_role '" ++ card.ownerRole.value ++ "' has no agent policy")
  let classes ← read (executor.getD "allowed_task_classes" (.list []))
  let allowedClass ← read ((Yaml.ofString card.taskClass).isIn classes)
  require allowedClass ("owner_role '" ++ card.ownerRole.value ++ "' cannot execute task_class '" ++
    card.taskClass ++ "'")
  let dataClasses ← read (executor.getD "allowed_data_classes" (.list []))
  let allowedData ← read ((Yaml.ofString card.dataClassification.value).isIn dataClasses)
  require allowedData ("owner_role '" ++ card.ownerRole.value ++ "' cannot access data class '" ++
    card.dataClassification.value ++ "'")
  pure executor

/-- The part of `assert_task_allowed` on the routing and the approvals of the
card. -/
def checkRouting (bundle : PolicyBundle) (card : TaskCardV1) (executor : Yaml) : Check Unit := do
  let classes ← read (bundle.routingPolicy.getD "classes" noEntries)
  let classPolicy ← read (classes.getText card.taskClass)
  require classPolicy.isMap ("task_class '" ++ card.taskClass ++ "' has no routing policy")
  let routingExecutor ← read (classPolicy.getText "executor")
  let aliases ← read (executor.getD "routing_executor_aliases" (.list []))
  let known ← read (routingExecutor.isIn aliases)
  require known "routing executor does not match owner_role policy"
  let route ← read (classPolicy.getText "route")
  require ((Yaml.list (card.modelRouting.defaultRoute.map .ofString)).eq route)
    "task route does not match the central routing policy"
  let taskClasses ← read (bundle.agentPolicy.getD "task_classes" noEntries)
  let requirements ← read (taskClasses.getText card.taskClass)
  require requirements.isMap ("task_class '" ++ card.taskClass ++ "' has no agent requirements")
  let approvals ← read ((← read (requirements.getD "required_approvals" (.list []))).toSet)
  require (Yaml.subset approvals (card.approvalRequired.map .str))
    "task is missing a required approval action"

/-- `assert_task_allowed`. -/
def assertTaskAllowed (card : TaskCardV1) (bundle : PolicyBundle) : Check Unit := do
  checkBundle bundle
  require (card.dataClassification ≠ .secret)
    "secret data must be referenced, never embedded in a task"
  let executor ← checkExecutor bundle card
  checkRouting bundle card executor
  assertRouteAllowed card.modelRouting bundle.catalog card.dataClassification

/-! ### The documents of the repository -/

/-- A mapping whose keys are texts. -/
def entries (kvs : List (String × Yaml)) : Yaml :=
  .map (kvs.map fun kv => .str kv.1) (kvs.map Prod.snd)

/-- A list of texts. -/
def texts (ss : List String) : Yaml := .list (ss.map .ofString)

/-- An entry of `model-catalog.yaml`. -/
def catalogEntry (providerClass : String) (dataClasses : List String) : Yaml :=
  entries [("provider_class", .ofString providerClass),
    ("connection_status", .ofString "verified"), ("allowed_data_classes", texts dataClasses)]

/-- A class of `routing-policy.yaml`. -/
def routingClass (executor route : String) : Yaml :=
  entries [("executor", .ofString executor), ("route", texts [route])]

/-- An executor of `agent-policy.yaml`. -/
def executorEntry (aliases taskClasses dataClasses : List String) : Yaml :=
  entries [("routing_executor_aliases", texts aliases),
    ("allowed_task_classes", texts taskClasses), ("allowed_data_classes", texts dataClasses)]

/-- The documents under `policies/`, as far as the admission reads them. -/
def bundle : PolicyBundle where
  catalog := entries [("models", entries
    [("deterministic_monitor", catalogEntry "local_model"
        ["internal", "confidential_local", "confidential_cloud_approved"]),
      ("anthropic_oauth_reasoner", catalogEntry "subscription_oauth"
        ["internal", "confidential_cloud_approved"])])]
  routingPolicy := entries [("classes", entries
    [("read_only_monitor", routingClass "hermes_nas_operator" "deterministic_monitor"),
      ("docs_change", routingClass "hermes_local_builder" "anthropic_oauth_reasoner"),
      ("context_pack", routingClass "panda_orchestrator" "anthropic_oauth_reasoner"),
      ("scope_risk_route", routingClass "panda_orchestrator" "anthropic_oauth_reasoner"),
      ("complex_code", routingClass "hermes_local_builder" "anthropic_oauth_reasoner"),
      ("review", routingClass "hermes_local_reviewer" "anthropic_oauth_reasoner"),
      ("knowledge_capture", routingClass "panda_orchestrator" "anthropic_oauth_reasoner")])]
  agentPolicy := entries
    [("executors", entries
      [("hermes_local", executorEntry ["hermes_local_builder", "hermes_local_reviewer"]
          ["docs_change", "complex_code"]
          ["internal", "confidential_local", "confidential_cloud_approved"]),
        ("hermes_nas", executorEntry ["hermes_nas_operator"] ["read_only_monitor"]
          ["internal"])]),
      ("task_classes", entries
        [("docs_change", entries [("required_approvals", texts ["merge_main"])]),
          ("complex_code", entries [("required_approvals", texts ["merge_main"])]),
          ("read_only_monitor", entries [("required_approvals", texts [])])])]
  dataPolicy := entries
    [("classifications", entries [("internal", noEntries), ("confidential_local", noEntries),
        ("confidential_cloud_approved", noEntries), ("secret", noEntries)]),
      ("provider_classes", entries
        [("local_model", texts ["internal", "confidential_local", "confidential_cloud_approved"]),
          ("subscription_oauth", texts ["internal", "confidential_cloud_approved"]),
          ("api_metered", texts [])])]
  taskAuthorityPolicy := entries
    [("authoritative_system", .ofString "control_harness"),
      ("projections", entries [("pandaos_session_tasks",
        entries [("runtime_status_writeback", .ofString "forbidden")])])]

example : assertTaskAllowed sampleCard bundle = .ok () := rfl

end Policy

end ControlHarness
