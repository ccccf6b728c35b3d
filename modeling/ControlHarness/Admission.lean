import ControlHarness.Policy

/-!
What the admission of a task promises.

The checks of `assert_task_allowed` are inverted one by one: what is known of
the documents and of the card once a check has passed.

* `model`, `providerRule`, `allowedProviders`, `classPolicy`, `boundary`: the
  entries of the documents that the promises are about.
* `route_admission_sound`: the route of an admitted card is the central one and
  leads to verified models whose rules list the data class, whatever the
  documents hold.
* `bothDirections_of_listsAgree`: the two directions of the data policy agree on an
  admitted card where the lists of the classifications, which no check reads, agree with
  those of the provider classes.
* `wholeElements_iff`: the boundaries of the executor are lists that hold the
  values of an admitted card exactly when none of them is a text or a mapping,
  in which a value may be found as well.
* `bothDirections_repository_iff`: beside the other documents of the repository, a data
  policy has both directions on every admitted card exactly when the lists agree on three
  pairs.
-/

namespace ControlHarness

namespace Policy

/-! ### Entries of the documents -/

/-- `catalog.get("models", {}).get(ref)`. -/
def model (bundle : PolicyBundle) (ref : String) : Except YamlError Yaml := do
  let models ← bundle.catalog.getD "models" noEntries
  models.getText ref

/-- `data_policy.get("provider_classes", {})[provider_class]`. -/
def providerRule (bundle : PolicyBundle) (p : ProviderClass) : Except YamlError Yaml := do
  let rules ← bundle.dataPolicy.getD "provider_classes" noEntries
  rules.index p.value

/-- `data_policy.get("classifications", {})[classification]["allowed_provider_classes"]`. -/
def allowedProviders (bundle : PolicyBundle) (d : DataClassification) :
    Except YamlError Yaml := do
  let classifications ← bundle.dataPolicy.getD "classifications" noEntries
  let entry ← classifications.index d.value
  entry.index "allowed_provider_classes"

/-- `routing_policy.get("classes", {}).get(task_class)`. -/
def classPolicy (bundle : PolicyBundle) (taskClass : String) : Except YamlError Yaml := do
  let classes ← bundle.routingPolicy.getD "classes" noEntries
  classes.getText taskClass

/-- `agent_policy.get("executors", {}).get(owner_role)`. -/
def executor (bundle : PolicyBundle) (role : ExecutorRole) : Except YamlError Yaml := do
  let executors ← bundle.agentPolicy.getD "executors" noEntries
  executors.getText role.value

/-- A field of the executor, the empty list where it is missing. -/
def boundary (bundle : PolicyBundle) (role : ExecutorRole) (field : String) :
    Except YamlError Yaml := do
  let entry ← executor bundle role
  entry.getD field (.list [])

/-- The entry exists and lists the text. -/
def Listed (entry : Except YamlError Yaml) (s : String) : Prop :=
  ∃ y, entry = .ok y ∧ y.lists s = true

/-! ### Checks that passed -/

section

variable {α : Type}

@[simp] lemma read_eq_ok {x : Except YamlError α} {a : α} : read x = .ok a ↔ x = .ok a :=
  Except.mapError_eq_ok

@[simp] lemma require_eq_ok {ok : Bool} {detail : String} :
    require ok detail = .ok () ↔ ok = true := by
  cases ok <;> simp [require]

lemma read_bind_eq_ok {β : Type} {x : Except YamlError α} {f : α → Check β} {b : β} :
    (read x >>= f) = .ok b ↔ ∃ a, x = .ok a ∧ f a = .ok b := by
  simp only [Except.bind_eq_ok, read_eq_ok]

lemma require_bind_eq_ok {ok : Bool} {detail : String} {f : Unit → Check α} {a : α} :
    (require ok detail >>= f) = .ok a ↔ ok = true ∧ f () = .ok a := by
  rw [Except.bind_eq_ok]
  constructor
  · rintro ⟨⟨⟩, hok, hf⟩
    exact ⟨require_eq_ok.mp hok, hf⟩
  · rintro ⟨hok, hf⟩
    exact ⟨(), require_eq_ok.mpr hok, hf⟩

end

/-- The text of a data class is longer than a character. -/
lemma length_dataClassification (d : DataClassification) : d.value.length ≠ 1 := by
  cases d <;> decide

lemma providerClass_eq_ok {y : Yaml} {p : ProviderClass} (h : providerClass y = .ok p) :
    y = .ofString p.value := by
  rw [providerClass] at h
  split at h
  · rename_i q hq
    obtain rfl := Except.ok.inj h
    have htext : some q.value = y.asText := by simpa using List.find?_some hq
    exact Yaml.asText_eq_some.mp htext.symm
  · exact absurd h (by simp)

/-- What is known of a reference that passed the loop of `assert_route_allowed`:
its model, the provider class and the data classes. -/
structure RefChecked (routing : ModelRouting) (models : Yaml) (d : DataClassification)
    (ref : String) (model : Yaml) (p : ProviderClass) (dataClasses : List Yaml) : Prop where
  found : models.getText ref = .ok model
  notNull : model.isNull = false
  verified : model.getText "connection_status" = .ok (.ofString "verified")
  provider : model.getText "provider_class" = .ok (.ofString p.value)
  notMetered : p ≠ .apiMetered
  permitted : p ∈ routing.permittedProviderClasses
  data : model.getText "allowed_data_classes" = .ok (.list dataClasses)
  allowed : Yaml.ofString d.value ∈ dataClasses

lemma checkRef_spec {routing : ModelRouting} {models : Yaml} {d : DataClassification}
    {ref : String} (h : checkRef routing models d ref = .ok ()) :
    ∃ model p dataClasses, RefChecked routing models d ref model p dataClasses := by
  rw [checkRef] at h
  obtain ⟨model, hmodel, h⟩ := read_bind_eq_ok.mp h
  obtain ⟨hnull, h⟩ := require_bind_eq_ok.mp h
  obtain ⟨providerText, hprovider, h⟩ := read_bind_eq_ok.mp h
  obtain ⟨hmetered, h⟩ := require_bind_eq_ok.mp h
  obtain ⟨connection, hconnection, h⟩ := read_bind_eq_ok.mp h
  obtain ⟨hverified, h⟩ := require_bind_eq_ok.mp h
  obtain ⟨value, hvalue, h⟩ := read_bind_eq_ok.mp h
  obtain ⟨p, hp, h⟩ := Except.bind_eq_ok.mp h
  obtain ⟨hpermitted, h⟩ := require_bind_eq_ok.mp h
  obtain ⟨allowedData, hdata, h⟩ := read_bind_eq_ok.mp h
  obtain ⟨hlist, h⟩ := require_bind_eq_ok.mp h
  obtain ⟨allowed, hallowed, h⟩ := read_bind_eq_ok.mp h
  have hok : allowed = true := require_eq_ok.mp h
  -- `model.get("provider_class")` and `model["provider_class"]` are one value
  obtain rfl := Except.ok.inj (hprovider.symm.trans (Yaml.getText_of_index hvalue))
  obtain rfl := providerClass_eq_ok hp
  obtain rfl := Yaml.asText_eq_some.mp (of_decide_eq_true hverified)
  obtain ⟨dataClasses, rfl⟩ := Yaml.isList_iff.mp hlist
  refine ⟨model, p, dataClasses, hmodel, by simpa using hnull, hconnection, hprovider, ?_,
    of_decide_eq_true hpermitted, hdata, Yaml.lists_of_isIn_list (hok ▸ hallowed)⟩
  rintro rfl
  exact absurd rfl (of_decide_eq_true hmetered)

lemma assertRouteAllowed_spec {routing : ModelRouting} {catalog : Yaml} {d : DataClassification}
    (h : assertRouteAllowed routing catalog d = .ok ()) :
    routing.defaultRoute ≠ [] ∧ ∃ models, catalog.getD "models" noEntries = .ok models ∧
      ∀ ref ∈ routing.defaultRoute, ∃ model p dataClasses,
        RefChecked routing models d ref model p dataClasses := by
  rw [assertRouteAllowed] at h
  obtain ⟨models, hmodels, h⟩ := read_bind_eq_ok.mp h
  obtain ⟨hroute, h⟩ := require_bind_eq_ok.mp h
  refine ⟨of_decide_eq_true hroute, models, hmodels, fun ref href => ?_⟩
  exact checkRef_spec (List.forM_eq_ok.mp h ref href)

/-- An entry of the catalog that passed `assert_task_allowed`: its data classes
are those of its provider class. -/
lemma checkCatalogEntry_spec {rules : Yaml} {entry : Scalar × Yaml} {p : ProviderClass}
    {dataClasses : List Yaml} (h : checkCatalogEntry rules entry = .ok ())
    (hprovider : entry.2.getText "provider_class" = .ok (.ofString p.value))
    (hdata : entry.2.getText "allowed_data_classes" = .ok (.list dataClasses)) :
    ∃ rule, rules.index p.value = .ok rule ∧ ∀ d : DataClassification,
      Yaml.ofString d.value ∈ dataClasses → rule.lists d.value = true := by
  rw [checkCatalogEntry] at h
  obtain ⟨provider, hprovider', h⟩ := read_bind_eq_ok.mp h
  obtain rfl := Except.ok.inj (hprovider.symm.trans hprovider')
  obtain ⟨known, -, h⟩ := read_bind_eq_ok.mp h
  obtain ⟨-, h⟩ := require_bind_eq_ok.mp h
  obtain ⟨listed, hlisted, h⟩ := read_bind_eq_ok.mp h
  obtain rfl : listed = .list dataClasses := Yaml.getD_of_getText hlisted hdata (by simp)
  obtain ⟨allowed, hallowed, h⟩ := read_bind_eq_ok.mp h
  obtain ⟨rule, hrule, h⟩ := read_bind_eq_ok.mp h
  obtain ⟨expected, hexpected, h⟩ := read_bind_eq_ok.mp h
  refine ⟨rule, hrule, fun d hd => ?_⟩
  refine Yaml.lists_of_sameSet (length_dataClassification d) hallowed hexpected
    (require_eq_ok.mp h) ?_
  exact List.any_eq_true.mpr ⟨_, hd, Yaml.ofString_eq.mpr rfl⟩

/-- The catalog that passed `assert_task_allowed`. -/
lemma checkBundle_spec {bundle : PolicyBundle} (h : checkBundle bundle = .ok ()) :
    ∃ rules models entries, bundle.dataPolicy.getD "provider_classes" noEntries = .ok rules ∧
      bundle.catalog.getD "models" noEntries = .ok models ∧ models.items = .ok entries ∧
      ∀ entry ∈ entries, checkCatalogEntry rules entry = .ok () := by
  rw [checkBundle] at h
  obtain ⟨authority, -, h⟩ := read_bind_eq_ok.mp h
  obtain ⟨-, h⟩ := require_bind_eq_ok.mp h
  obtain ⟨projections, -, h⟩ := read_bind_eq_ok.mp h
  obtain ⟨panda, -, h⟩ := read_bind_eq_ok.mp h
  obtain ⟨writeback, -, h⟩ := read_bind_eq_ok.mp h
  obtain ⟨-, h⟩ := require_bind_eq_ok.mp h
  obtain ⟨entry, -, h⟩ := read_bind_eq_ok.mp h
  obtain ⟨classifications, -, h⟩ := read_bind_eq_ok.mp h
  obtain ⟨-, h⟩ := require_bind_eq_ok.mp h
  obtain ⟨rules, hrules, h⟩ := read_bind_eq_ok.mp h
  obtain ⟨providers, -, h⟩ := read_bind_eq_ok.mp h
  obtain ⟨-, h⟩ := require_bind_eq_ok.mp h
  obtain ⟨models, hmodels, h⟩ := read_bind_eq_ok.mp h
  obtain ⟨entries, hentries, h⟩ := read_bind_eq_ok.mp h
  exact ⟨rules, models, entries, hrules, hmodels, hentries, List.forM_eq_ok.mp h⟩

/-- The membership tests on the boundaries of the executor that passed. -/
lemma checkExecutor_spec {bundle : PolicyBundle} {card : TaskCardV1} {entry : Yaml}
    (h : checkExecutor bundle card = .ok entry) :
    executor bundle card.ownerRole = .ok entry ∧
      (∃ y, boundary bundle card.ownerRole "allowed_task_classes" = .ok y ∧
        (Yaml.ofString card.taskClass).isIn y = .ok true) ∧
      ∃ y, boundary bundle card.ownerRole "allowed_data_classes" = .ok y ∧
        (Yaml.ofString card.dataClassification.value).isIn y = .ok true := by
  rw [checkExecutor] at h
  obtain ⟨executors, hexecutors, h⟩ := read_bind_eq_ok.mp h
  obtain ⟨found, hfound, h⟩ := read_bind_eq_ok.mp h
  obtain ⟨-, h⟩ := require_bind_eq_ok.mp h
  obtain ⟨classes, hclasses, h⟩ := read_bind_eq_ok.mp h
  obtain ⟨allowedClass, hclass, h⟩ := read_bind_eq_ok.mp h
  obtain ⟨hallowedClass, h⟩ := require_bind_eq_ok.mp h
  obtain ⟨dataClasses, hdata, h⟩ := read_bind_eq_ok.mp h
  obtain ⟨allowedData, hclassification, h⟩ := read_bind_eq_ok.mp h
  obtain ⟨hallowedData, h⟩ := require_bind_eq_ok.mp h
  obtain rfl := Except.ok.inj h
  have hentry : executor bundle card.ownerRole = .ok found :=
    Except.bind_eq_ok.mpr ⟨executors, hexecutors, hfound⟩
  refine ⟨hentry, ⟨classes, Except.bind_eq_ok.mpr ⟨found, hentry, hclasses⟩, ?_⟩,
    dataClasses, Except.bind_eq_ok.mpr ⟨found, hentry, hdata⟩, ?_⟩
  · rw [hclass, hallowedClass]
  · rw [hclassification, hallowedData]

/-- The routing of the class that passed: its executor is found among the
aliases, and its route is that of the card. -/
lemma checkRouting_spec {bundle : PolicyBundle} {card : TaskCardV1} {entry : Yaml}
    (h : checkRouting bundle card entry = .ok ()) :
    ∃ policy, classPolicy bundle card.taskClass = .ok policy ∧
      policy.getText "route" = .ok (texts card.modelRouting.defaultRoute) ∧
      ∃ routingExecutor aliases, policy.getText "executor" = .ok routingExecutor ∧
        entry.getD "routing_executor_aliases" (.list []) = .ok aliases ∧
        routingExecutor.isIn aliases = .ok true := by
  rw [checkRouting] at h
  obtain ⟨classes, hclasses, h⟩ := read_bind_eq_ok.mp h
  obtain ⟨policy, hpolicy, h⟩ := read_bind_eq_ok.mp h
  obtain ⟨-, h⟩ := require_bind_eq_ok.mp h
  obtain ⟨routingExecutor, hexecutor, h⟩ := read_bind_eq_ok.mp h
  obtain ⟨aliases, haliases, h⟩ := read_bind_eq_ok.mp h
  obtain ⟨known, hknown, h⟩ := read_bind_eq_ok.mp h
  obtain ⟨hisKnown, h⟩ := require_bind_eq_ok.mp h
  obtain ⟨route, hroute, h⟩ := read_bind_eq_ok.mp h
  obtain ⟨heq, -⟩ := require_bind_eq_ok.mp h
  obtain rfl := Yaml.list_ofString_eq.mp heq
  refine ⟨policy, Except.bind_eq_ok.mpr ⟨classes, hclasses, hpolicy⟩, hroute, routingExecutor,
    aliases, hexecutor, haliases, ?_⟩
  rw [hknown, hisKnown]

/-- The parts of `assert_task_allowed`. -/
lemma assertTaskAllowed_spec {card : TaskCardV1} {bundle : PolicyBundle}
    (h : assertTaskAllowed card bundle = .ok ()) :
    checkBundle bundle = .ok () ∧ card.dataClassification ≠ .secret ∧
      (∃ entry, checkExecutor bundle card = .ok entry ∧ checkRouting bundle card entry = .ok ()) ∧
      assertRouteAllowed card.modelRouting bundle.catalog card.dataClassification = .ok () := by
  rw [assertTaskAllowed] at h
  obtain ⟨⟨⟩, hbundle, h⟩ := Except.bind_eq_ok.mp h
  obtain ⟨hsecret, h⟩ := require_bind_eq_ok.mp h
  obtain ⟨entry, hentry, h⟩ := Except.bind_eq_ok.mp h
  obtain ⟨⟨⟩, hrouting, hroute⟩ := Except.bind_eq_ok.mp h
  exact ⟨hbundle, of_decide_eq_true hsecret, ⟨entry, hentry, hrouting⟩, hroute⟩

/-! ### The route of an admitted card -/

/-- The reference is a verified model of the catalog. Its provider class is not
metered, the card permits it, and its rule lists the data class of the card. -/
structure SoundRef (bundle : PolicyBundle) (card : TaskCardV1) (ref : String) (entry : Yaml)
    (p : ProviderClass) : Prop where
  found : model bundle ref = .ok entry
  notNull : entry.isNull = false
  verified : entry.getText "connection_status" = .ok (.ofString "verified")
  provider : entry.getText "provider_class" = .ok (.ofString p.value)
  notMetered : p ≠ .apiMetered
  permitted : p ∈ card.modelRouting.permittedProviderClasses
  rule : Listed (providerRule bundle p) card.dataClassification.value

/-- What the admission promises about the route of a card. -/
structure SoundRoute (bundle : PolicyBundle) (card : TaskCardV1) : Prop where
  nonempty : card.modelRouting.defaultRoute ≠ []
  central : ∃ policy, classPolicy bundle card.taskClass = .ok policy ∧
    policy.getText "route" = .ok (texts card.modelRouting.defaultRoute)
  refs : ∀ ref ∈ card.modelRouting.defaultRoute, ∃ entry p, SoundRef bundle card ref entry p
  notSecret : card.dataClassification ≠ .secret

lemma soundRef_of_admitted {card : TaskCardV1} {bundle : PolicyBundle}
    (h : assertTaskAllowed card bundle = .ok ()) {ref : String}
    (href : ref ∈ card.modelRouting.defaultRoute) :
    ∃ entry p, SoundRef bundle card ref entry p := by
  obtain ⟨hbundle, -, -, hroute⟩ := assertTaskAllowed_spec h
  obtain ⟨rules, models, items, hrules, hmodels, hitems, hentries⟩ := checkBundle_spec hbundle
  obtain ⟨-, models', hmodels', hrefs⟩ := assertRouteAllowed_spec hroute
  obtain rfl := Except.ok.inj (hmodels.symm.trans hmodels')
  obtain ⟨entry, p, dataClasses, hchecked⟩ := hrefs ref href
  -- the model of the route is one of the entries that the loop over the catalog checked
  obtain ⟨key, hmem⟩ := Yaml.mem_items_of_getText hchecked.found hchecked.notNull hitems
  obtain ⟨rule, hrule, hlists⟩ :=
    checkCatalogEntry_spec (hentries _ hmem) hchecked.provider hchecked.data
  exact ⟨entry, p,
    { found := Except.bind_eq_ok.mpr ⟨models, hmodels, hchecked.found⟩
      notNull := hchecked.notNull
      verified := hchecked.verified
      provider := hchecked.provider
      notMetered := hchecked.notMetered
      permitted := hchecked.permitted
      rule := ⟨rule, Except.bind_eq_ok.mpr ⟨rules, hrules, hrule⟩,
        hlists card.dataClassification hchecked.allowed⟩ }⟩

/-- **The admission of routes is sound**, whatever the documents hold: the route
of an admitted card is not empty and the central one of its class, its
references are verified models of permitted provider classes whose rules list
the data class, and the data is not secret. -/
theorem route_admission_sound {card : TaskCardV1} {bundle : PolicyBundle}
    (h : assertTaskAllowed card bundle = .ok ()) : SoundRoute bundle card := by
  obtain ⟨-, hsecret, ⟨entry, -, hrouting⟩, hroute⟩ := assertTaskAllowed_spec h
  obtain ⟨policy, hpolicy, hcentral, -⟩ := checkRouting_spec hrouting
  exact
    { nonempty := (assertRouteAllowed_spec hroute).1
      central := ⟨policy, hpolicy, hcentral⟩
      refs := fun _ href => soundRef_of_admitted h href
      notSecret := hsecret }

/-- The card of the tests under the documents of the repository. -/
theorem route_admission_sound_sample : SoundRoute bundle sampleCard :=
  route_admission_sound rfl

/-! ### The two directions of the data policy -/

/-- The provider class is that of a model on the route of the card. -/
def RouteProvider (bundle : PolicyBundle) (card : TaskCardV1) (p : ProviderClass) : Prop :=
  ∃ ref ∈ card.modelRouting.defaultRoute, ∃ entry, model bundle ref = .ok entry ∧
    entry.getText "provider_class" = .ok (.ofString p.value)

/-- The data policy names the provider classes of the route under the data class
of the card, and the data class under each of them. -/
def BothDirections (bundle : PolicyBundle) (card : TaskCardV1) : Prop :=
  ∀ p, RouteProvider bundle card p →
    Listed (allowedProviders bundle card.dataClassification) p.value ∧
      Listed (providerRule bundle p) card.dataClassification.value

/-- The two lists of the data policy agree: a provider class under which a data class is
listed is listed under that data class. Secret data and metered providers are left out, as
no task may have them. -/
def ListsAgree (bundle : PolicyBundle) : Prop :=
  ∀ d p, d ≠ .secret → p ≠ .apiMetered → Listed (providerRule bundle p) d.value →
    Listed (allowedProviders bundle d) p.value

lemma providerClass_ext {p q : ProviderClass} (h : Yaml.ofString p.value = .ofString q.value) :
    p = q := by
  have hvalue : p.value = q.value := Scalar.str.inj (Yaml.scalar.inj h)
  cases p <;> cases q <;> first | rfl | exact absurd hvalue (by decide)

/-- A provider class on the route of an admitted card is not metered, and its rule lists the
data class. -/
lemma listed_providerRule {card : TaskCardV1} {bundle : PolicyBundle} {p : ProviderClass}
    (h : assertTaskAllowed card bundle = .ok ()) (hp : RouteProvider bundle card p) :
    p ≠ .apiMetered ∧ Listed (providerRule bundle p) card.dataClassification.value := by
  obtain ⟨ref, href, entry, hentry, hprovider⟩ := hp
  obtain ⟨entry', q, hsound⟩ := soundRef_of_admitted h href
  obtain rfl := Except.ok.inj (hentry.symm.trans hsound.found)
  obtain rfl := providerClass_ext (Except.ok.inj (hprovider.symm.trans hsound.provider))
  exact ⟨hsound.notMetered, hsound.rule⟩

/-- **The two directions of the data policy agree** on every admitted card where its two
lists agree: the check reads the one of the provider class only. -/
theorem bothDirections_of_listsAgree {bundle : PolicyBundle} (hagree : ListsAgree bundle)
    {card : TaskCardV1} (h : assertTaskAllowed card bundle = .ok ()) :
    BothDirections bundle card := by
  have hsecret : card.dataClassification ≠ .secret := (assertTaskAllowed_spec h).2.1
  intro p hp
  obtain ⟨hmetered, hrule⟩ := listed_providerRule h hp
  exact ⟨hagree card.dataClassification p hsecret hmetered hrule, hrule⟩

/-- The data policy of the repository but for the provider classes that it
allows for internal data. -/
def dataPolicyFor (internal : List String) : Yaml :=
  entries
    [("classifications", entries
      [("internal", entries [("allowed_provider_classes", texts internal)]),
        ("confidential_local", entries [("allowed_provider_classes", texts ["local_model"])]),
        ("confidential_cloud_approved",
          entries [("allowed_provider_classes", texts ["local_model", "subscription_oauth"])]),
        ("secret", entries [("allowed_provider_classes", texts [])])]),
      ("provider_classes", entries
        [("local_model", texts ["internal", "confidential_local", "confidential_cloud_approved"]),
          ("subscription_oauth", texts ["internal", "confidential_cloud_approved"]),
          ("api_metered", texts [])])]

/-- The two directions agree under the data policy of the repository. -/
theorem bothDirections_of_listsAgree_sample :
    BothDirections
      { bundle with dataPolicy := dataPolicyFor ["local_model", "subscription_oauth"] }
      sampleCard := by
  refine bothDirections_of_listsAgree (fun d p hsecret hmetered hrule => ?_) rfl
  cases p with
  | apiMetered => exact absurd rfl hmetered
  | localModel =>
      cases d with
      | secret => exact absurd rfl hsecret
      | internal | confidentialLocal | confidentialCloudApproved => exact ⟨_, rfl, by decide⟩
  | subscriptionOauth =>
      cases d with
      | secret => exact absurd rfl hsecret
      | internal | confidentialCloudApproved => exact ⟨_, rfl, by decide⟩
      | confidentialLocal =>
          obtain ⟨y, hy, hlists⟩ := hrule
          obtain rfl : texts ["internal", "confidential_cloud_approved"] = y := Except.ok.inj hy
          exact absurd hlists (by decide)

/-- The two directions need not agree: internal data is restricted to local
models under its classification, and a card of internal data is admitted to a
subscription model. -/
theorem not_bothDirections :
    ¬ ∀ bundle card, assertTaskAllowed card bundle = .ok () → BothDirections bundle card := by
  intro h
  obtain ⟨⟨y, hy, hlists⟩, -⟩ :=
    h { bundle with dataPolicy := dataPolicyFor ["local_model"] } sampleCard rfl
      .subscriptionOauth ⟨"anthropic_oauth_reasoner", by decide, _, rfl, rfl⟩
  obtain rfl : texts ["local_model"] = y := Except.ok.inj hy
  exact absurd hlists (by decide)

/-! ### The boundaries of the executor -/

/-- The boundaries are lists, and the task class, the data class and the executor
of the class are elements of them. -/
def WholeElements (bundle : PolicyBundle) (card : TaskCardV1) : Prop :=
  ∃ classes dataClasses aliases policy routingExecutor,
    boundary bundle card.ownerRole "allowed_task_classes" = .ok (.list classes) ∧
    Yaml.ofString card.taskClass ∈ classes ∧
    boundary bundle card.ownerRole "allowed_data_classes" = .ok (.list dataClasses) ∧
    Yaml.ofString card.dataClassification.value ∈ dataClasses ∧
    boundary bundle card.ownerRole "routing_executor_aliases" = .ok (.list aliases) ∧
    classPolicy bundle card.taskClass = .ok policy ∧
    policy.getText "executor" = .ok routingExecutor ∧ aliases.any routingExecutor.eq = true

/-- The fields of an executor that `assert_task_allowed` tests for membership. -/
def boundaryFields : List String :=
  ["allowed_task_classes", "allowed_data_classes", "routing_executor_aliases"]

/-- No boundary is a text or a mapping. -/
def PlainBoundaries (bundle : PolicyBundle) (role : ExecutorRole) : Prop :=
  ∀ field ∈ boundaryFields, ∀ y, boundary bundle role field = .ok y →
    y.asText = none ∧ y.isMap = false

/-- **The boundaries of the executor hold the values of an admitted card as whole
elements** exactly when none of them is a text or a mapping. -/
theorem wholeElements_iff {card : TaskCardV1} {bundle : PolicyBundle}
    (h : assertTaskAllowed card bundle = .ok ()) :
    WholeElements bundle card ↔ PlainBoundaries bundle card.ownerRole := by
  constructor
  · rintro ⟨classes, dataClasses, aliases, -, -, hclasses, -, hdata, -, haliases, -⟩ field hfield
      y hy
    simp only [boundaryFields, List.mem_cons, List.not_mem_nil, or_false] at hfield
    rcases hfield with rfl | rfl | rfl
    · obtain rfl := Except.ok.inj (hclasses.symm.trans hy)
      exact ⟨rfl, rfl⟩
    · obtain rfl := Except.ok.inj (hdata.symm.trans hy)
      exact ⟨rfl, rfl⟩
    · obtain rfl := Except.ok.inj (haliases.symm.trans hy)
      exact ⟨rfl, rfl⟩
  · intro hplain
    obtain ⟨-, -, ⟨entry, hexecutor, hrouting⟩, -⟩ := assertTaskAllowed_spec h
    obtain ⟨hentry, ⟨y, hy, hclass⟩, z, hz, hclassification⟩ := checkExecutor_spec hexecutor
    obtain ⟨policy, hpolicy, -, routingExecutor, aliases, hrouted, haliases, hknown⟩ :=
      checkRouting_spec hrouting
    have haliases' : boundary bundle card.ownerRole "routing_executor_aliases" = .ok aliases :=
      Except.bind_eq_ok.mpr ⟨entry, hentry, haliases⟩
    -- a test that returned is on a list, a text or a mapping
    obtain ⟨classes, rfl⟩ := Yaml.list_of_isIn hclass (hplain _ (by decide) y hy)
    obtain ⟨dataClasses, rfl⟩ := Yaml.list_of_isIn hclassification (hplain _ (by decide) z hz)
    obtain ⟨names, rfl⟩ := Yaml.list_of_isIn hknown (hplain _ (by decide) aliases haliases')
    exact ⟨classes, dataClasses, names, policy, routingExecutor, hy,
      Yaml.lists_of_isIn_list hclass, hz, Yaml.lists_of_isIn_list hclassification, haliases',
      hpolicy, hrouted, Except.ok.inj hknown⟩

/-- The boundaries of the documents of the repository. -/
theorem wholeElements_iff_sample : WholeElements bundle sampleCard := by
  refine (wholeElements_iff rfl).mpr fun field hfield y hy => ?_
  simp only [boundaryFields, List.mem_cons, List.not_mem_nil, or_false] at hfield
  rcases hfield with rfl | rfl | rfl
  · obtain rfl : texts ["docs_change", "complex_code"] = y := Except.ok.inj hy
    exact ⟨rfl, rfl⟩
  · obtain rfl : texts ["internal", "confidential_local", "confidential_cloud_approved"] = y :=
      Except.ok.inj hy
    exact ⟨rfl, rfl⟩
  · obtain rfl : texts ["hermes_local_builder", "hermes_local_reviewer"] = y := Except.ok.inj hy
    exact ⟨rfl, rfl⟩

/-- An agent policy with a text in the place of the task classes of an executor,
which holds the name of a class. -/
def scalarAgentPolicy : Yaml :=
  entries
    [("executors", entries [("hermes_local", entries
      [("routing_executor_aliases", texts ["hermes_local_builder"]),
        ("allowed_task_classes", .ofString "all but docs_change"),
        ("allowed_data_classes", texts ["internal"])])]),
      ("task_classes", entries
        [("docs_change", entries [("required_approvals", texts ["merge_main"])])])]

/-- A text in the place of a list admits a card. -/
theorem not_wholeElements :
    ¬ ∀ bundle card, assertTaskAllowed card bundle = .ok () → WholeElements bundle card := by
  intro h
  obtain ⟨classes, -, -, -, -, hclasses, -⟩ :=
    h { bundle with agentPolicy := scalarAgentPolicy } sampleCard rfl
  have hscalar : boundary { bundle with agentPolicy := scalarAgentPolicy } .hermesLocal
      "allowed_task_classes" = .ok (.ofString "all but docs_change") := rfl
  exact Yaml.noConfusion (Except.ok.inj (hscalar.symm.trans hclasses))

/-! ### The documents of the repository -/

/-- The classes that an executor of the agent policy may take, and their routes. -/
def routeOf : ExecutorRole → List (String × String)
  | .hermesLocal =>
      [("docs_change", "anthropic_oauth_reasoner"), ("complex_code", "anthropic_oauth_reasoner")]
  | .hermesNas => [("read_only_monitor", "deterministic_monitor")]

/-- The class of a card that its executor takes. -/
lemma taskClass_of_checkExecutor {card : TaskCardV1} {entry : Yaml}
    (h : checkExecutor bundle card = .ok entry) :
    card.taskClass ∈ (routeOf card.ownerRole).map Prod.fst := by
  obtain ⟨-, ⟨y, hy, hin⟩, -⟩ := checkExecutor_spec h
  cases hrole : card.ownerRole with
  | hermesLocal | hermesNas =>
      rw [hrole] at hy
      obtain rfl := Except.ok.inj hy
      simpa [routeOf, Yaml.ofString] using Yaml.lists_of_isIn_list hin

/-- The model that the routing policy has for the classes of an executor. -/
def centralModel : ExecutorRole → String
  | .hermesLocal => "anthropic_oauth_reasoner"
  | .hermesNas => "deterministic_monitor"

/-- The route of a card that passed is the model of its executor. -/
lemma route_of_checkRouting {card : TaskCardV1} {entry : Yaml}
    (h : checkExecutor bundle card = .ok entry)
    (hrouting : checkRouting bundle card entry = .ok ()) :
    card.modelRouting.defaultRoute = [centralModel card.ownerRole] := by
  have hclass := taskClass_of_checkExecutor h
  obtain ⟨policy, hpolicy, hroute, -⟩ := checkRouting_spec hrouting
  have hinj : Function.Injective texts := by
    intro a b hab
    have hmap : a.map Yaml.ofString = b.map Yaml.ofString := Yaml.list.inj hab
    exact List.map_injective_iff.mpr (fun s t hst => by simpa [Yaml.ofString] using hst) hmap
  cases hrole : card.ownerRole with
  | hermesLocal =>
      rw [hrole] at hclass
      rcases List.mem_pair.mp hclass with hclass | hclass
      all_goals
        rw [hclass] at hpolicy
        obtain rfl := Except.ok.inj hpolicy
        exact hinj (Except.ok.inj hroute).symm
  | hermesNas =>
      rw [hrole] at hclass
      rw [List.mem_singleton.mp hclass] at hpolicy
      obtain rfl := Except.ok.inj hpolicy
      exact hinj (Except.ok.inj hroute).symm

/-- The documents of the repository with another data policy. -/
def bundleWith (dataPolicy : Yaml) : PolicyBundle := { bundle with dataPolicy }

/-- The data classes and the provider classes of the cards that the other documents of the
repository let pass. -/
def admittedPairs : List (DataClassification × ProviderClass) :=
  [(.internal, .subscriptionOauth), (.confidentialCloudApproved, .subscriptionOauth),
    (.internal, .localModel)]

/-- A card that passes has one of the pairs. -/
lemma mem_admittedPairs {dataPolicy : Yaml} {card : TaskCardV1} {p : ProviderClass}
    (h : assertTaskAllowed card (bundleWith dataPolicy) = .ok ())
    (hp : RouteProvider (bundleWith dataPolicy) card p) :
    (card.dataClassification, p) ∈ admittedPairs := by
  obtain ⟨-, -, ⟨entry, hentry, hrouting⟩, hroute⟩ := assertTaskAllowed_spec h
  obtain ⟨-, -, y, hy, hin⟩ := checkExecutor_spec hentry
  have hcentral : card.modelRouting.defaultRoute = [centralModel card.ownerRole] :=
    @route_of_checkRouting card entry hentry hrouting
  obtain ⟨-, models, hmodels, hrefs⟩ := assertRouteAllowed_spec hroute
  obtain ⟨ref, href, model, hmodel, hprovider⟩ := hp
  obtain ⟨model', q, dataClasses, hchecked⟩ := hrefs ref href
  have hfound : Policy.model bundle ref = .ok model' :=
    Except.bind_eq_ok.mpr ⟨models, hmodels, hchecked.found⟩
  obtain rfl : model = model' := Except.ok.inj (hmodel.symm.trans hfound)
  rw [hcentral, List.mem_singleton] at href
  subst href
  cases hrole : card.ownerRole with
  | hermesLocal =>
      -- the catalog has the model for two of the data classes
      rw [hrole] at hfound
      obtain rfl := Except.ok.inj hfound
      obtain rfl : ProviderClass.subscriptionOauth = p :=
        providerClass_ext (Except.ok.inj hprovider)
      have hdata := hchecked.allowed
      obtain rfl := Yaml.list.inj (Except.ok.inj hchecked.data)
      cases hclass : card.dataClassification with
      | internal | confidentialCloudApproved => decide
      | confidentialLocal | secret =>
          rw [hclass] at hdata
          exact absurd hdata (by simp [Yaml.ofString, DataClassification.value])
  | hermesNas =>
      -- the executor has one of them
      rw [hrole] at hfound hy
      obtain rfl := Except.ok.inj hfound
      obtain rfl : ProviderClass.localModel = p := providerClass_ext (Except.ok.inj hprovider)
      obtain rfl : texts ["internal"] = y := Except.ok.inj hy
      have hdata := Yaml.lists_of_isIn_list hin
      cases hclass : card.dataClassification with
      | internal => decide
      | confidentialLocal | confidentialCloudApproved | secret =>
          rw [hclass] at hdata
          exact absurd hdata (by simp [Yaml.ofString, DataClassification.value])

/-- **The two directions under another data policy**: beside the other documents of the
repository, every admitted card has both exactly when the data policy lists the provider class
under the data class for each of the pairs. -/
theorem bothDirections_repository_iff {dataPolicy : Yaml}
    (h : checkBundle (bundleWith dataPolicy) = .ok ()) :
    (∀ card, assertTaskAllowed card (bundleWith dataPolicy) = .ok () →
        BothDirections (bundleWith dataPolicy) card) ↔
      ∀ dp ∈ admittedPairs, Listed (allowedProviders (bundleWith dataPolicy) dp.1) dp.2.value := by
  constructor
  · intro hboth
    -- a card for each of the pairs
    have hinternal : assertTaskAllowed sampleCard (bundleWith dataPolicy) = .ok () := by
      rw [assertTaskAllowed, h]
      rfl
    have happroved : assertTaskAllowed
        { sampleCard with dataClassification := .confidentialCloudApproved }
        (bundleWith dataPolicy) = .ok () := by
      rw [assertTaskAllowed, h]
      rfl
    have hmonitor : assertTaskAllowed monitorCard (bundleWith dataPolicy) = .ok () := by
      rw [assertTaskAllowed, h]
      rfl
    rintro ⟨d, p⟩ hdp
    rcases List.mem_cons.mp hdp with heq | hdp
    · obtain ⟨rfl, rfl⟩ := Prod.mk.inj heq
      exact (hboth _ hinternal _ ⟨"anthropic_oauth_reasoner", by decide, _, rfl, rfl⟩).1
    rcases List.mem_pair.mp hdp with heq | heq
    · obtain ⟨rfl, rfl⟩ := Prod.mk.inj heq
      exact (hboth _ happroved _ ⟨"anthropic_oauth_reasoner", by decide, _, rfl, rfl⟩).1
    · obtain ⟨rfl, rfl⟩ := Prod.mk.inj heq
      exact (hboth _ hmonitor _ ⟨"deterministic_monitor", by decide, _, rfl, rfl⟩).1
  · intro hlisted card hcard p hp
    exact ⟨hlisted _ (mem_admittedPairs hcard hp), (listed_providerRule hcard hp).2⟩

end Policy

end ControlHarness
