import ServiceAccess.Proofs.Provider.Surroundings

/-! # Empty variables in the surroundings

An empty text says nothing about access keys, session tokens and endpoints: a variable that is set to it might as well
be missing. Regions are looked up in another way. An empty variable hides the regions behind it, and there is no empty
region, so that no connector comes of it.

* **`Routine.ComesTo`**: what a routine comes to when shared profiles hold given keys.
* **`Cloud.Found`**: what auto-configuration is asked for. **`Cloud.EmptyIsUnset`**: it is the same without some
  variables.
* **`Cloud.HidesRegion`**: where an empty variable hides the regions behind it.
* **`Cloud.emptyIsUnset_iff`**: empty variables make a difference only there, and only where a connector would come of
  the other regions. -/

namespace ServiceAccess

/-- A request in surroundings without some variables. -/
def AutoConfigureRequest.without (r : AutoConfigureRequest) (names : List String) : AutoConfigureRequest :=
  { r with env := r.env.filter fun name _ => !names.contains name }

/-! ## Results that profiles decide -/

namespace Routine

variable {α β : Type} {files : ProfileQuery → Except Failure AccessKeys} {r : Routine α} {x : Except Failure α}

/-- **What a routine comes to** when shared profiles hold given keys: the result of a run that has been told so. -/
def ComesTo (files : ProfileQuery → Except Failure AccessKeys) (r : Routine α) (x : Except Failure α) : Prop :=
  ∃ deeds, r.Does deeds x ∧ ∀ query answer, Deed.asked (.profile query) answer ∈ deeds → answer = files query

/-- A routine that writes lines and asks for profiles, and does nothing else. -/
inductive AsksProfiles {α : Type} : Routine α → Prop
  /-- It has ended. -/
  | done (result : Except Failure α) : AsksProfiles (.done result)
  /-- It writes a line. -/
  | note {level : Level} {message : String} {r : Routine α} : AsksProfiles r → AsksProfiles (.note level message r)
  /-- It asks for a profile. -/
  | profile {query : ProfileQuery} {next : Except Failure AccessKeys → Routine α} :
      (∀ answer, AsksProfiles (next answer)) → AsksProfiles (.ask (.profile query) next)

/-- So does what follows, if it does nothing else either. -/
theorem AsksProfiles.attempt {f : Except Failure α → Routine β} (h : r.AsksProfiles)
    (next : ∀ x, (f x).AsksProfiles) : (r.attempt f).AsksProfiles := by
  induction h with
  | done result => exact next result
  | note _ ih => exact .note ih
  | profile _ ih => exact .profile ih

theorem AsksProfiles.bind {f : α → Routine β} (h : r.AsksProfiles) (next : ∀ a, (f a).AsksProfiles) :
    (r >>= f).AsksProfiles := by
  refine h.attempt fun x => ?_
  cases x with
  | ok a => exact next a
  | error failure => exact .done _

theorem comesTo_done_iff {y : Except Failure α} : (done y).ComesTo files x ↔ x = y := by
  simp [ComesTo, does_done_iff]

theorem comesTo_note_iff {level : Level} {message : String} :
    (note level message r).ComesTo files x ↔ r.ComesTo files x := by
  simp [ComesTo, does_note_iff]

/-- A question for a profile gets the answer of the files. -/
theorem comesTo_profile_iff {query : ProfileQuery} {next : Except Failure AccessKeys → Routine α} :
    (ask (.profile query) next).ComesTo files x ↔ (next (files query)).ComesTo files x := by
  constructor
  · rintro ⟨_, run, told⟩
    obtain ⟨answer, later, goesOn, rfl⟩ := does_ask_iff.1 run
    obtain rfl : answer = files query := told query answer List.mem_cons_self
    exact ⟨later, goesOn, fun query answer here => told query answer (List.mem_cons_of_mem _ here)⟩
  · rintro ⟨later, goesOn, told⟩
    refine ⟨_, does_ask_iff.2 ⟨files query, later, goesOn, rfl⟩, fun query' answer here => ?_⟩
    rcases List.mem_cons.1 here with first | here
    · obtain ⟨same, same'⟩ := Deed.asked.inj first
      obtain rfl := Query.profile.inj same
      exact eq_of_heq same'
    · exact told query' answer here

/-- **Such a routine comes to one result**, whatever profiles hold. -/
theorem AsksProfiles.exists_comesTo_iff (h : r.AsksProfiles) (files : ProfileQuery → Except Failure AccessKeys) :
    ∃ x, ∀ y, r.ComesTo files y ↔ y = x := by
  induction h with
  | done result => exact ⟨result, fun y => comesTo_done_iff⟩
  | note _ ih =>
    obtain ⟨x, only⟩ := ih
    exact ⟨x, fun y => comesTo_note_iff.trans (only y)⟩
  | @profile query _ _ ih =>
    obtain ⟨x, only⟩ := ih (files query)
    exact ⟨x, fun y => comesTo_profile_iff.trans (only y)⟩

end Routine

namespace Cloud

variable {request : AutoConfigureRequest} {names : List String} {name : String} {api : Interface} {logger : Logger}
  {files : ProfileQuery → Except Failure AccessKeys}

/-! ## The surroundings without empty variables -/

/-- The variables that keys, regions and endpoints are looked up in. -/
def lookedUp : List String :=
  ["AWS_ACCESS_KEY_ID", "AWS_SECRET_ACCESS_KEY", "AWS_SESSION_TOKEN", "AWS_REGION", "AWS_DEFAULT_REGION",
    "AWS_ENDPOINT_URL"]

/-- Some of these variables, which are all set to the empty text. -/
def AllEmpty (request : AutoConfigureRequest) (names : List String) : Prop :=
  ∀ name ∈ names, name ∈ lookedUp ∧ request.env.get? name = some ""

/-- **An empty variable hides the regions behind it**, where it is the first one that is set. -/
def HidesRegion (request : AutoConfigureRequest) (names : List String) : Prop :=
  request.region = none ∧
    ("AWS_REGION" ∈ names ∨ request.env.get? "AWS_REGION" = none ∧ "AWS_DEFAULT_REGION" ∈ names)

theorem get?_without (request : AutoConfigureRequest) (names : List String) (name : String) :
    (request.without names).env.get? name = if name ∈ names then none else request.env.get? name := by
  rw [AutoConfigureRequest.without, Table.get?_filter]
  by_cases gone : name ∈ names
  · simp [gone]
  · cases request.env.get? name <;> simp [gone]

/-- Looking a variable up passes over empty ones. -/
theorem AllEmpty.lookup? (h : AllEmpty request names) (name : String) :
    (request.without names).lookup? name = request.lookup? name := by
  rw [AutoConfigureRequest.lookup?, AutoConfigureRequest.lookup?, get?_without]
  split
  · next gone => rw [(h name gone).2]; rfl
  · rfl

/-- Other variables stay. -/
theorem AllEmpty.get?_of_not_mem (h : AllEmpty request names) {name : String} (other : name ∉ lookedUp) :
    (request.without names).env.get? name = request.env.get? name := by
  rw [get?_without, if_neg fun gone => other (h name gone).1]

/-- The same keys are found. -/
theorem AllEmpty.harvest (h : AllEmpty request names) : harvest (request.without names) = harvest request := by
  have keys : environmentKeys? (request.without names) = environmentKeys? request := by
    simp only [environmentKeys?, h.lookup?]
  have profile : "AWS_PROFILE" ∉ lookedUp := by decide
  have credentials : "AWS_SHARED_CREDENTIALS_FILE" ∉ lookedUp := by decide
  have config : "AWS_CONFIG_FILE" ∉ lookedUp := by decide
  rw [Cloud.harvest, Cloud.harvest, keys, h.get?_of_not_mem profile, h.get?_of_not_mem credentials,
    h.get?_of_not_mem config]

/-- A hidden region is empty. -/
theorem AllEmpty.regionFor_of_hides (h : AllEmpty request names) (hides : HidesRegion request names) :
    regionFor request = "" := by
  obtain ⟨unnamed, first | ⟨unset, second⟩⟩ := hides
  · simp [regionFor, unnamed, (h _ first).2]
  · simp [regionFor, unnamed, unset, (h _ second).2]

/-- Where none is hidden it is the same region. -/
theorem regionFor_without (plain : ¬ HidesRegion request names) :
    regionFor (request.without names) = regionFor request := by
  have named : (request.without names).region = request.region := rfl
  cases asked : request.region with
  | some region => simp [regionFor, named, asked]
  | none =>
    simp only [HidesRegion, asked, true_and, not_or, not_and] at plain
    obtain ⟨first, second⟩ := plain
    cases set : request.env.get? "AWS_REGION" with
    | some region => simp [regionFor, named, asked, get?_without, first, set]
    | none => simp [regionFor, named, asked, get?_without, first, set, second set]

/-- **Where no region is hidden nothing changes**, whatever else is empty. -/
theorem AllEmpty.autoConfigure_of_not_hides (h : AllEmpty request names) (plain : ¬ HidesRegion request names)
    (api : Interface) (logger : Logger) : Connector.autoConfigure (connectorType api) (request.without names) logger
      = Connector.autoConfigure (connectorType api) request logger := by
  have settings : settingsFor (request.without names) = settingsFor request := by
    funext found method token
    rw [settingsFor, settingsFor, regionFor_without plain, h.lookup?]
    rfl
  have finds : Connector.finder (connectorType api) (request.without names)
      = Connector.finder (connectorType api) request := rfl
  have found : Cloud.autoConfigure (request.without names) = Cloud.autoConfigure request := by
    rw [Cloud.autoConfigure, Cloud.autoConfigure, h.harvest, settings]
    rfl
  rw [Connector.autoConfigure, Connector.autoConfigure, finds]
  cases looks : Connector.finder (connectorType api) request with
  | error failure => rfl
  | ok find =>
    obtain ⟨rfl, -⟩ := Prospect.finder_eq_ok_iff.1 looks
    rw [Routine.ofExcept_ok_bind, Routine.ofExcept_ok_bind, found]

/-! ## The empty region -/

/-- Settings make no connector when their region is empty. -/
theorem not_make_of_region_empty (empty : regionFor request = "") (found : Harvest) (method : String)
    (token : Option String) (c : Connector) :
    let settings := settingsFor request found method token
    Connector.make? (connectorType api)
      ⟨settings.method, settings.bundle, some settings.resourceType, settings.resourceId, none⟩ logger ≠ .ok c := by
  intro settings made
  obtain ⟨m, -, credentials, -, declared, -, accepted, -⟩ := Connector.exists_of_make made
  have region : ∃ default, m.schema.fields.get? "region"
      = some ⟨some "AWS region", .text none none (some .region), false, false, default⟩ := by
    rcases List.mem_pair.1 (List.mem_of_find?_eq_some declared) with rfl | rfl <;> exact ⟨_, rfl⟩
  obtain ⟨default, field⟩ := region
  have given : Schema.value? settings.bundle.given "region"
      ⟨some "AWS region", .text none none (some .region), false, false, default⟩ = some (.own (.str "")) := by
    rw [← empty]
    simp only [settings, settingsFor]
    cases token <;> cases request.lookup? "AWS_ENDPOINT_URL" <;> rfl
  obtain ⟨takes, -⟩ := Credentials.parse_eq_ok_iff.1 accepted
  have accepts := takes "region" _ field
  rw [given, Prospect.takes_pattern_iff] at accepts
  exact absurd accepts (by decide)

/-- **No connector comes of the empty region.** -/
theorem not_mayReturn_of_region_empty (empty : regionFor request = "") (c : Connector) :
    ¬ (Connector.autoConfigure (connectorType api) request logger).MayReturn (.ok c) := by
  intro returned
  obtain ⟨find, looks, returned⟩ := Routine.MayReturn.of_bind returned
  obtain ⟨rfl, -⟩ := Prospect.finder_eq_ok_iff.1 (Routine.MayReturn.of_ofExcept looks).symm
  obtain ⟨settings, searched, returned⟩ := Routine.MayReturn.of_bind returned
  obtain ⟨found, -, searched⟩ := Routine.MayReturn.of_bind searched
  obtain ⟨-, -, made⟩ := Routine.MayReturn.of_bind returned
  have made := (Routine.MayReturn.of_ofExcept made).symm
  dsimp only at searched
  split at searched
  · cases searched
  · obtain ⟨-, -, searched⟩ := Routine.MayReturn.of_bind searched
    cases searched
    exact not_make_of_region_empty empty _ _ _ c made

/-! ## What is found -/

/-- What is found, if a connector comes of it: its auth method, its resource type, its resource and its credentials. -/
def found? (x : Except Failure Connector) : Option (String × String × Option String × Credentials) :=
  x.toOption.map fun c => (c.method.id, c.resourceType.id, c.resourceId, c.credentials)

/-- **Variables that might as well be missing**: a request comes to one result with them and to one result without
them, whatever shared profiles hold, and the same is found. -/
def EmptyIsUnset (api : Interface) (logger : Logger) (files : ProfileQuery → Except Failure AccessKeys)
    (request : AutoConfigureRequest) (names : List String) : Prop :=
  ∃ x x', (∀ y, (Connector.autoConfigure (connectorType api) request logger).ComesTo files y ↔ y = x) ∧
    (∀ y, (Connector.autoConfigure (connectorType api) (request.without names) logger).ComesTo files y ↔ y = x') ∧
    found? x = found? x'

/-- Auto-configuration asks for nothing but profiles. -/
theorem asksProfiles_autoConfigure (api : Interface) (request : AutoConfigureRequest) (logger : Logger) :
    (Connector.autoConfigure (connectorType api) request logger).AsksProfiles := by
  have harvests : (Cloud.harvest request).AsksProfiles := by
    rw [Cloud.harvest]
    split
    · exact .done _
    · refine .profile fun answer => ?_
      cases answer <;> exact .done _
  rw [Connector.autoConfigure]
  cases looks : Connector.finder (connectorType api) request with
  | error failure => exact .done _
  | ok find =>
    obtain ⟨rfl, -⟩ := Prospect.finder_eq_ok_iff.1 looks
    rw [Routine.ofExcept_ok_bind]
    refine .bind (.bind harvests fun found => ?_) fun settings => .note (.done _)
    dsimp only
    split
    · exact .done _
    · exact .note (.done _)

/-- What comes of a hidden region is no connector. -/
theorem found?_of_hides (empty : AllEmpty request names) (hides : HidesRegion request names)
    {x : Except Failure Connector} (comes : (Connector.autoConfigure (connectorType api) request logger).ComesTo files x) :
    found? x = none := by
  obtain ⟨deeds, run, -⟩ := comes
  cases x with
  | error failure => rfl
  | ok c =>
    exact absurd (Routine.mayReturn_iff.2 ⟨deeds, run⟩)
      (not_mayReturn_of_region_empty (empty.regionFor_of_hides hides) c)

/-- It makes a difference when a connector comes of the other regions. -/
theorem not_emptyIsUnset_of_hides (empty : AllEmpty request names) (hides : HidesRegion request names) {c : Connector}
    (comes : (Connector.autoConfigure (connectorType api) (request.without names) logger).ComesTo files (.ok c)) :
    ¬ EmptyIsUnset api logger files request names := by
  rintro ⟨x, x', only, only', same⟩
  obtain rfl := (only' _).1 comes
  rw [found?_of_hides empty hides ((only x).2 rfl)] at same
  cases same

/-- **Empty variables might as well be missing, except for regions.** They make a difference exactly when one of them
hides the regions behind it and a connector comes of the request without them. Elsewhere the request has the same
runs with them and without. -/
theorem emptyIsUnset_iff (empty : AllEmpty request names) (api : Interface) (logger : Logger)
    (files : ProfileQuery → Except Failure AccessKeys) :
    (EmptyIsUnset api logger files request names ↔ ¬ (HidesRegion request names ∧
      ∃ c, (Connector.autoConfigure (connectorType api) (request.without names) logger).ComesTo files (.ok c))) ∧
    (¬ HidesRegion request names → ∀ deeds x,
      (Connector.autoConfigure (connectorType api) (request.without names) logger).Does deeds x ↔
        (Connector.autoConfigure (connectorType api) request logger).Does deeds x) := by
  obtain ⟨x, only⟩ := (asksProfiles_autoConfigure api request logger).exists_comesTo_iff files
  obtain ⟨x', only'⟩ := (asksProfiles_autoConfigure api (request.without names) logger).exists_comesTo_iff files
  refine ⟨⟨?_, fun plain => ⟨x, x', only, only', ?_⟩⟩, fun plain deeds y => ?_⟩
  · rintro same ⟨hides, c, comes⟩
    exact not_emptyIsUnset_of_hides empty hides comes same
  · by_cases hides : HidesRegion request names
    · -- neither of them comes to a connector
      rw [found?_of_hides empty hides ((only x).2 rfl)]
      cases x' with
      | error failure => rfl
      | ok c => exact absurd ⟨hides, c, (only' _).2 rfl⟩ plain
    · rw [empty.autoConfigure_of_not_hides hides] at only'
      rw [(only' x).1 ((only x).2 rfl)]
  · rw [empty.autoConfigure_of_not_hides plain]

/-- Half of the keys, behind which profiles are asked, and a second region that is empty. -/
def halfRequest : AutoConfigureRequest where
  method := none
  resourceType := none
  resourceId := none
  region := none
  env := .ofList [("AWS_ACCESS_KEY_ID", ""), ("AWS_SECRET_ACCESS_KEY", "key"), ("AWS_REGION", "eu-west-1"),
    ("AWS_DEFAULT_REGION", ""), ("AWS_ENDPOINT_URL", "")]

/-- Its empty variables might as well be missing. -/
theorem emptyIsUnset_iff_half :
    AllEmpty halfRequest ["AWS_ACCESS_KEY_ID", "AWS_DEFAULT_REGION", "AWS_ENDPOINT_URL"] ∧
    ∀ files, EmptyIsUnset (.named "cloud") .silent files halfRequest
      ["AWS_ACCESS_KEY_ID", "AWS_DEFAULT_REGION", "AWS_ENDPOINT_URL"] := by
  have empty : AllEmpty halfRequest ["AWS_ACCESS_KEY_ID", "AWS_DEFAULT_REGION", "AWS_ENDPOINT_URL"] := by
    simp only [AllEmpty, List.forall_mem_cons, List.not_mem_nil, false_implies, implies_true, and_true]
    decide
  refine ⟨empty, fun files => (emptyIsUnset_iff empty (.named "cloud") .silent files).1.2 ?_⟩
  rintro ⟨⟨-, first | ⟨unset, -⟩⟩, -⟩
  · exact absurd first (by decide)
  · cases unset

/-- Both keys, and a region that is empty. -/
def regionRequest : AutoConfigureRequest where
  method := none
  resourceType := none
  resourceId := none
  region := none
  env := .ofList [("AWS_ACCESS_KEY_ID", "id"), ("AWS_SECRET_ACCESS_KEY", "key"), ("AWS_REGION", "")]

/-- **An empty region is not as good as none**: without it a connector comes of the default region. -/
theorem not_emptyIsUnset_region : ¬ ∀ api logger files request names, AllEmpty request names →
    EmptyIsUnset api logger files request names := by
  intro always
  have empty : AllEmpty regionRequest ["AWS_REGION"] := List.forall_mem_singleton.2 ⟨by decide, rfl⟩
  have hides : HidesRegion regionRequest ["AWS_REGION"] := ⟨rfl, .inl List.mem_cons_self⟩
  obtain ⟨line, line', c, found⟩ : ∃ line line' c,
      Connector.autoConfigure (connectorType (.named "cloud")) (regionRequest.without ["AWS_REGION"]) .silent
        = .note .info line (.note .info line' (.done (.ok c))) := ⟨_, _, _, rfl⟩
  let files : ProfileQuery → Except Failure AccessKeys := fun _ => .error (.service (.plain "No profile"))
  have comes : (Connector.autoConfigure (connectorType (.named "cloud")) (regionRequest.without ["AWS_REGION"])
      .silent).ComesTo files (.ok c) := by
    rw [found, Routine.comesTo_note_iff, Routine.comesTo_note_iff, Routine.comesTo_done_iff]
  exact not_emptyIsUnset_of_hides empty hides comes
    (always (.named "cloud") .silent files regionRequest ["AWS_REGION"] empty)

end Cloud

end ServiceAccess
