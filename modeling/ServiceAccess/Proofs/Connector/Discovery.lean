import Mathlib.Data.List.Induction
import ServiceAccess.Proofs.Connector.Activity
import ServiceAccess.Proofs.Connector.Storage
import ServiceAccess.Proofs.Resource.Shapes

/-! # Discovery

Without a target a connector asks its provider for all targets of its resource type. The provider lists raw IDs in
whatever spelling it has them; the connector reads them one by one, keeps every canonical ID once, warns of IDs of no
accepted shape, and gives up on any other failure of the resolver.

* **`Resolver.Finds`**: the canonical IDs of a list, each once, in order of first appearance. There is exactly one
  such list: **`Resolver.finds_collect`**, **`Resolver.Finds.unique`**.
* **`Connector.Discovers`**: what is said of listed IDs and what comes of them.
* **`Connector.Explores.does_verify_iff`**: every run of a verification that discovers.
* **`Connector.Activity.Verifying`**: a verification under way, which leaves the connector alone.
* **`Connector.discovery`**: both together. -/

namespace ServiceAccess

/-! ## Canonical IDs of a list -/

namespace Resolver

variable (r : Resolver)

/-- The canonical spelling of a raw ID, if it is accepted. -/
def canonical? (raw : String) : Option String := (r.parse raw).toOption.map ResourceId.canonicalId

/-- Whether a raw ID is of no accepted shape. -/
def refuses (raw : String) : Bool :=
  match r.parse raw with
  | .error (.invalidResourceId ..) => true
  | _ => false

/-- A raw ID fails in another way than by being of no accepted shape. -/
def FailsOn (raw : String) (failure : Failure) : Prop :=
  r.parse raw = .error failure ∧ ∀ resourceType raw formats, failure ≠ .invalidResourceId resourceType raw formats

/-- All raw IDs are accepted, or of no accepted shape. -/
def ReadsAll (listed : List String) : Prop := ∀ raw ∈ listed, ∀ failure, ¬ r.FailsOn raw failure

/-- Where a canonical ID first appears in a list, in whatever spelling. -/
def firstIn (listed : List String) (id : String) : Nat := listed.findIdx fun raw => r.canonical? raw = some id

/-- **The canonical IDs of a list**, each once, in order of first appearance. -/
structure Finds (listed ids : List String) : Prop where
  /-- They are those of the listed IDs that are accepted. -/
  mem_iff : ∀ id, id ∈ ids ↔ ∃ raw ∈ listed, r.canonical? raw = some id
  /-- None is there twice. -/
  nodup : ids.Nodup
  /-- They are in the order in which they appear first. -/
  ordered : ids.Pairwise fun id id' => r.firstIn listed id < r.firstIn listed id'

variable {r} {listed ids ids' : List String} {raw id : String} {failure : Failure}

theorem canonical?_eq_some_iff :
    r.canonical? raw = some id ↔ ∃ read, r.parse raw = .ok read ∧ read.canonicalId = id := by
  rw [canonical?]
  cases r.parse raw with
  | ok read => simp [Except.toOption]
  | error failure => simp [Except.toOption]

/-- **There is one list of canonical IDs at most.** -/
theorem Finds.unique (h : r.Finds listed ids) (h' : r.Finds listed ids') : ids = ids' := by
  have same : ids.Perm ids' :=
    (List.perm_ext_iff_of_nodup h.nodup h'.nodup).2 fun id => (h.mem_iff id).trans (h'.mem_iff id).symm
  refine same.eq_of_pairwise (fun id id' _ _ before after => ?_) h.ordered h'.ordered
  exact absurd (Nat.lt_trans before after) (Nat.lt_irrefl _)

theorem firstIn_append (r : Resolver) (listed more : List String) (id : String) :
    r.firstIn (listed ++ more) id =
      if r.firstIn listed id < listed.length then r.firstIn listed id else r.firstIn more id + listed.length :=
  List.findIdx_append

/-- An ID appears in a list exactly when it appears before the end. -/
theorem firstIn_lt_length_iff :
    r.firstIn listed id < listed.length ↔ ∃ raw ∈ listed, r.canonical? raw = some id := by
  rw [firstIn, List.findIdx_lt_length]
  simp only [decide_eq_true_eq]

/-- An ID that has not appeared appears first where it is. -/
theorem firstIn_concat (fresh : ¬ ∃ raw ∈ listed, r.canonical? raw = some id) (here : r.canonical? raw = some id) :
    r.firstIn (listed ++ [raw]) id = listed.length := by
  rw [firstIn_append, if_neg (firstIn_lt_length_iff.not.2 fresh), firstIn, List.findIdx_cons]
  simp [here]

/-- The order of first appearance stays, whatever comes behind. -/
theorem Finds.ordered_append (h : r.Finds listed ids) (more : List String) :
    ids.Pairwise fun id id' => r.firstIn (listed ++ more) id < r.firstIn (listed ++ more) id' := by
  refine h.ordered.imp_of_mem fun {id id'} among among' before => ?_
  rwa [firstIn_append, if_pos (firstIn_lt_length_iff.2 ((h.mem_iff id).1 among)), firstIn_append,
    if_pos (firstIn_lt_length_iff.2 ((h.mem_iff id').1 among'))]

/-- The IDs that have appeared after one more raw ID. -/
theorem Finds.appeared_iff (h : r.Finds listed ids) :
    (∃ s ∈ listed ++ [raw], r.canonical? s = some id) ↔ id ∈ ids ∨ r.canonical? raw = some id := by
  rw [h.mem_iff]
  simp only [List.mem_append, List.mem_singleton, or_and_right, exists_or, exists_eq_left]

/-- A raw ID changes nothing when it is not accepted or its canonical ID has been found. -/
theorem Finds.concat_known (h : r.Finds listed ids) (known : ∀ id, r.canonical? raw = some id → id ∈ ids) :
    r.Finds (listed ++ [raw]) ids := by
  refine ⟨fun id => ?_, h.nodup, h.ordered_append [raw]⟩
  rw [h.appeared_iff]
  constructor
  · exact .inl
  · rintro (among | here)
    · exact among
    · exact known id here

/-- A new canonical ID comes behind those that have been found. -/
theorem Finds.concat_new (h : r.Finds listed ids) (canonical : r.canonical? raw = some id) (new : id ∉ ids) :
    r.Finds (listed ++ [raw]) (ids ++ [id]) := by
  have fresh : ¬ ∃ s ∈ listed, r.canonical? s = some id := (h.mem_iff id).not.1 new
  refine ⟨fun other => ?_, List.concat_eq_append ▸ h.nodup.concat new,
    List.pairwise_append.2 ⟨h.ordered_append [raw], List.pairwise_singleton _ _, ?_⟩⟩
  · rw [h.appeared_iff, canonical, Option.some.injEq, List.mem_append, List.mem_singleton, eq_comm (a := other)]
  · intro found among last here
    obtain rfl := List.mem_singleton.1 here
    have early : r.firstIn listed found < listed.length := firstIn_lt_length_iff.2 ((h.mem_iff found).1 among)
    rw [firstIn_concat fresh canonical, firstIn_append, if_pos early]
    exact early

variable (r) in
/-- Keep the canonical ID of a raw one behind those that have been found, unless it is among them. -/
def collect (found : List String) (raw : String) : List String :=
  match r.canonical? raw with
  | some id => if found.contains id then found else found ++ [id]
  | none => found

/-- **One more raw ID**: its canonical ID is new, or it changes nothing. -/
theorem Finds.collect (h : r.Finds listed ids) (raw : String) : r.Finds (listed ++ [raw]) (r.collect ids raw) := by
  rw [Resolver.collect]
  cases canonical : r.canonical? raw with
  | none => exact h.concat_known (by simp [canonical])
  | some id =>
    by_cases found : id ∈ ids
    · simp only [List.contains_iff_mem, found, if_true]
      exact h.concat_known (by simp [canonical, found])
    · simp only [List.contains_iff_mem, found, if_false]
      exact h.concat_new canonical found

/-- **There is a list of canonical IDs**: it is collected one by one. -/
theorem finds_collect (r : Resolver) (listed : List String) : r.Finds listed (listed.foldl r.collect []) := by
  -- from the back, where the list is read last
  induction listed using List.reverseRecOn with
  | nil => exact ⟨by simp, List.nodup_nil, List.Pairwise.nil⟩
  | append_singleton listed raw ih =>
    rw [List.foldl_append]
    exact ih.collect raw

/-- A list is read to its end or up to a failure. -/
theorem readsAll_or_failsOn (r : Resolver) (listed : List String) : r.ReadsAll listed ∨
    ∃ earlier raw later failure, listed = earlier ++ raw :: later ∧ r.ReadsAll earlier ∧ r.FailsOn raw failure := by
  induction listed with
  | nil => exact .inl (List.forall_mem_nil _)
  | cons raw rest ih =>
    by_cases fails : ∃ failure, r.FailsOn raw failure
    · obtain ⟨failure, fails⟩ := fails
      exact .inr ⟨[], raw, rest, failure, rfl, List.forall_mem_nil _, fails⟩
    · have here : ∀ failure, ¬ r.FailsOn raw failure := not_exists.1 fails
      rcases ih with all | ⟨earlier, raw', later, failure, rfl, sound, fails'⟩
      · exact .inl (List.forall_mem_cons.2 ⟨here, all⟩)
      · exact .inr ⟨raw :: earlier, raw', later, failure, rfl, List.forall_mem_cons.2 ⟨here, sound⟩, fails'⟩

/-- Where no shape refuses what it recognises, every list is read to its end. -/
theorem readsAll_of_lenient (lenient : ∀ s ∈ r.shapes, ∀ cs failure, s.recognise cs ≠ some (.error failure))
    (listed : List String) : r.ReadsAll listed := by
  rintro raw - failure ⟨read, other⟩
  exact other _ _ _ ((parse_eq_error_iff lenient).1 read).2

end Resolver

/-! ## Listed IDs -/

namespace Connector

variable {c : Connector} {r : Resolver}

/-- The warning of a listed ID of no accepted shape. -/
def skipping (c : Connector) (r : Resolver) (raw : String) : LogLine :=
  c.line .warn ("skipping discovered resource \"" ++ raw ++ "\": not a valid " ++ r.resourceType ++ " ID")

/-- One warning for every place of a list with an ID of no accepted shape, in order. -/
def warnings (c : Connector) (r : Resolver) (listed : List String) : List LogLine :=
  (listed.filter r.refuses).map (c.skipping r)

theorem warnings_cons (c : Connector) (r : Resolver) (raw : String) (listed : List String) :
    c.warnings r (raw :: listed) = (if r.refuses raw then [c.skipping r raw] else []) ++ c.warnings r listed := by
  rw [warnings, List.filter_cons]
  split <;> rfl

/-- **What is said of listed IDs, and what comes of them.** -/
inductive Discovers (c : Connector) (r : Resolver) : (listed : List String) → List LogLine →
    Except Failure (List String) → Prop
  /-- Where every ID is accepted or of no accepted shape, the canonical IDs are found. -/
  | found {listed ids : List String} : r.ReadsAll listed → r.Finds listed ids →
      Discovers c r listed
        (c.warnings r listed ++ [c.line .info ("discovered " ++ toString ids.length ++ " accessible resource(s)")])
        (.ok ids)
  /-- The first ID that fails in another way ends the discovery with its failure. -/
  | failed {earlier later : List String} {raw : String} {failure : Failure} : r.ReadsAll earlier →
      r.FailsOn raw failure → Discovers c r (earlier ++ raw :: later) (c.warnings r earlier) (.error failure)

/-- Something comes of every list. -/
theorem exists_discovers (c : Connector) (r : Resolver) (listed : List String) :
    ∃ told result, c.Discovers r listed told result := by
  rcases r.readsAll_or_failsOn listed with readable | ⟨earlier, raw, later, failure, rfl, readable, fails⟩
  · exact ⟨_, _, .found readable (r.finds_collect listed)⟩
  · exact ⟨_, _, .failed readable fails⟩

/-- **The IDs of a list are read one by one**: with a warning, or with a canonical ID for those found so far. -/
theorem canonicalIds_append {earlier : List String} (readable : r.ReadsAll earlier) (rest found : List String) :
    c.canonicalIds r (earlier ++ rest) found
      = .tell (c.warnings r earlier) (c.canonicalIds r rest (earlier.foldl r.collect found)) := by
  induction earlier generalizing found with
  | nil => rfl
  | cons raw earlier ih =>
    obtain ⟨here, readable⟩ := List.forall_mem_cons.1 readable
    rw [List.cons_append, canonicalIds, List.foldl_cons]
    split
    · next id read =>
      have canonical : r.canonical? raw = some id.canonicalId := Resolver.canonical?_eq_some_iff.2 ⟨id, read, rfl⟩
      have accepted : r.refuses raw = false := by simp [Resolver.refuses, read]
      rw [ih readable, warnings_cons, accepted, Resolver.collect, canonical]
      rfl
    · next read =>
      have canonical : r.canonical? raw = none := by simp [Resolver.canonical?, read, Except.toOption]
      have refused : r.refuses raw = true := by simp [Resolver.refuses, read]
      rw [ih readable, warnings_cons, refused, Resolver.collect, canonical]
      rfl
    · next failure other read => exact absurd ⟨read, other⟩ (here failure)

/-- A list is read up to the first ID that fails in another way. -/
theorem canonicalIds_failed {earlier later found : List String} {raw : String} {failure : Failure}
    (readable : r.ReadsAll earlier) (fails : r.FailsOn raw failure) :
    c.canonicalIds r (earlier ++ raw :: later) found = .tell (c.warnings r earlier) (.fail failure) := by
  obtain ⟨read, other⟩ := fails
  rw [canonicalIds_append readable, canonicalIds, read]
  cases failure with
  | invalidResourceId => exact absurd rfl (other _ _ _)
  | _ => rfl

/-- What comes of listed IDs decides about the routine. -/
theorem Discovers.discovered_eq {listed : List String} {told : List LogLine} {result : Except Failure (List String)}
    (h : c.Discovers r listed told result) (reader : resolverFor c.type c.resourceType.id = .ok r) :
    c.discovered listed = .tell told (.done result) := by
  rw [discovered, reader, Routine.ofExcept_ok_bind]
  cases h with
  | found readable found =>
    have read := canonicalIds_append (c := c) readable [] []
    rw [List.append_nil, (r.finds_collect listed).unique found, canonicalIds] at read
    rw [read, Routine.tell_bind, Routine.tell_append]
    rfl
  | failed readable fails =>
    rw [canonicalIds_failed readable fails, Routine.tell_bind]
    rfl

/-- **What is said of listed IDs and what comes of them is what is done.** -/
theorem does_discovered_iff (reader : resolverFor c.type c.resourceType.id = .ok r) {listed : List String}
    {deeds : List Deed} {result : Except Failure (List String)} : (c.discovered listed).Does deeds result ↔
      ∃ told, c.Discovers r listed told result ∧ deeds = told.map .wrote := by
  constructor
  · intro run
    obtain ⟨told, result', h⟩ := c.exists_discovers r listed
    rw [h.discovered_eq reader, Routine.does_tell_iff] at run
    obtain ⟨_, ended, rfl⟩ := run
    obtain ⟨rfl, rfl⟩ := Routine.does_done_iff.1 ended
    exact ⟨told, h, List.append_nil _⟩
  · rintro ⟨told, h, rfl⟩
    rw [h.discovered_eq reader, Routine.does_tell_iff]
    exact ⟨[], .done result, (List.append_nil _).symm⟩

/-! ## Verifications that discover -/

/-- **A connector that discovers** has no target; its resource type has several targets that can be listed, and their
IDs have a reader. -/
structure Explores (c : Connector) (r : Resolver) : Prop where
  /-- What it is bound to stands in the description of its type. -/
  described : c.Described
  /-- It has no target. -/
  untargeted : c.resource = none
  /-- Its resource type has several targets. -/
  several : c.resourceType.supportsInstances = true
  /-- The targets can be listed. -/
  listable : c.resourceType.supportsDiscovery = true
  /-- Their IDs have a reader. -/
  reader : c.type.resolvers.get? c.resourceType.id = some r

/-- What is said after the provider has answered, and what comes of it. -/
def Concludes (c : Connector) (r : Resolver) (outcome : Except Failure VerifyOutcome) (told : List LogLine)
    (result : Except Failure (List String)) : Prop :=
  match outcome with
  | .ok (.verified listed) => c.Discovers r listed told result
  | .ok (.unreachable reason) =>
    told = [c.line .warn ("verification inconclusive, provider unreachable: " ++ reason)] ∧ result = .ok []
  | .error failure => told = [] ∧ result = .error failure

theorem Explores.resolverFor (h : c.Explores r) : resolverFor c.type c.resourceType.id = .ok r := by
  have known : (c.type.spec.resourceType? c.resourceType.id).isSome = true :=
    List.find?_isSome.2 ⟨c.resourceType, h.described.resourceType, by simp⟩
  exact resolverFor_of_own known h.reader

/-- **What a verification does that discovers**: what the provider does, and what follows from its outcome. -/
theorem Explores.does_verify_iff (h : c.Explores r) {deeds : List Deed} {result : Except Failure (List String)} :
    (c.verify none none).Does deeds result ↔ ∃ asked outcome told,
      (c.type.provider.verify (c.context none) true).Does asked outcome ∧ c.Concludes r outcome told result ∧
      deeds = asked ++ told.map .wrote := by
  have target : c.verificationTarget none none = .ok none := by
    rw [verificationTarget, Option.filter_none, h.untargeted]
  simp only [verify, target, Routine.ofExcept_ok_bind, Option.isNone_none, h.several, h.listable, Bool.and_self,
    Routine.does_bind_iff]
  constructor
  · rintro (⟨asked, outcome, later, run, goesOn, rfl⟩ | ⟨failure, run, rfl⟩)
    · cases outcome with
      | verified listed =>
        obtain ⟨told, discovers, rfl⟩ := (does_discovered_iff h.resolverFor).1 goesOn
        exact ⟨asked, _, told, run, discovers, rfl⟩
      | unreachable reason =>
        obtain ⟨_, ended, rfl⟩ := Routine.does_note_iff.1 goesOn
        obtain ⟨rfl, rfl⟩ := Routine.does_done_iff.1 ended
        exact ⟨asked, _, [_], run, ⟨rfl, rfl⟩, rfl⟩
    · exact ⟨deeds, _, [], run, ⟨rfl, rfl⟩, (List.append_nil _).symm⟩
  · rintro ⟨asked, outcome, told, run, concludes, rfl⟩
    cases outcome with
    | error failure =>
      obtain ⟨rfl, rfl⟩ := concludes
      exact .inr ⟨failure, by rwa [List.map_nil, List.append_nil], rfl⟩
    | ok outcome =>
      refine .inl ⟨asked, outcome, _, run, ?_, rfl⟩
      cases outcome with
      | verified listed => exact (does_discovered_iff h.resolverFor).2 ⟨told, concludes, rfl⟩
      | unreachable reason =>
        obtain ⟨rfl, rfl⟩ := concludes
        exact .note (.done _)

/-- Something follows from every outcome. -/
theorem exists_concludes (c : Connector) (r : Resolver) (outcome : Except Failure VerifyOutcome) :
    ∃ told result, c.Concludes r outcome told result := by
  cases outcome with
  | error failure => exact ⟨_, _, rfl, rfl⟩
  | ok outcome =>
    cases outcome with
    | verified listed => exact c.exists_discovers r listed
    | unreachable reason => exact ⟨_, _, rfl, rfl⟩

/-! ## Verifications under way -/

/-- What happens to a routine under way: a reply comes in for it, or its end takes effect. -/
inductive Cue.Concerns {ι : Type} (n : Nat) : Cue ι → Prop
  /-- A reply comes in. -/
  | reply (reply : Reply) : Concerns n (.reply n reply)
  /-- The end takes effect. -/
  | finish : Concerns n (.finish n)

namespace Activity

variable {ι : Type} {a : Activity} {n : Nat}

/-- A routine that ends as a verification, whatever the replies are. -/
def Verifies (program : Routine Ending) : Prop :=
  ∀ x, program.MayReturn x → ∃ result, x = .ok (.verified result)

/-- **A verification is under way under a number**, or was: nothing else is or will be. -/
structure Verifying (n : Nat) (a : Activity) : Prop where
  /-- The number has been given. -/
  given : n < a.started
  /-- What is under way under it is a verification. -/
  verifies : ∀ program, a.threads.get? n = some program → Verifies program

/-- A routine goes on, under that number or another one. -/
theorem verifying_proceed {thread : Nat} {program : Routine Ending} (given : n < a.started)
    (same : thread = n → Verifies program)
    (other : thread ≠ n → ∀ program, a.threads.get? n = some program → Verifies program) :
    (a.proceed thread program).1.Verifying n := by
  refine ⟨given, fun later held => ?_⟩
  rw [Activity.proceed, Table.get?_insert] at held
  split at held
  · next here =>
    obtain rfl := Option.some.inj held
    exact fun x returned => same here.symm x returned.of_proceed
  · next elsewhere => exact other (Ne.symm elsewhere) later held

/-- Another routine is started under a number of its own. -/
theorem Verifying.start (h : a.Verifying n) {α : Type} (program : Routine α) (ending : Except Failure α → Ending) :
    (a.start program ending).1.Verifying n := by
  refine verifying_proceed (Nat.lt_succ_of_lt h.given) (fun same => ?_) fun _ => h.verifies
  exact absurd same (Nat.ne_of_gt h.given)

theorem Verifying.performAll (h : a.Verifying n) (effects : List Effect) : (a.performAll effects).1.Verifying n := by
  induction effects generalizing a with
  | nil => exact h
  | cons e rest ih =>
    refine ih ?_
    cases e with
    | create | dispose => exact h.start _ _
    | log | settled | refused => exact h

theorem Verifying.advance (h : a.Verifying n) (i : Input) : (a.advance i).1.Verifying n :=
  Verifying.performAll (a := { a with connector := (a.connector.step i).1 }) ⟨h.given, h.verifies⟩ _

variable (bundles : ι → Bundle)

/-- **Whatever the cue, a verification under way stays one.** -/
theorem Verifying.step (h : a.Verifying n) (cue : Cue ι) : (a.step bundles cue).1.Verifying n := by
  rw [Activity.step]
  cases cue with
  | connect | rotate | disconnect | resume => exact h.advance _
  | verify | configureLocal => exact h.start _ _
  | canonical => exact h
  | reply thread reply =>
    rw [handle]
    split
    · next next reacts =>
      obtain ⟨program, held, reacts⟩ := Option.bind_eq_some_iff.1 reacts
      refine verifying_proceed h.given (fun same => ?_) fun _ => h.verifies
      subst same
      exact fun x returned => h.verifies program held x (returned.of_react reacts)
    · exact h
  | finish thread =>
    rw [handle]
    split
    · next ending held =>
      have left : Verifying n { a with threads := a.threads.erase thread } := by
        refine ⟨h.given, fun program held => h.verifies program ?_⟩
        rw [Table.get?_erase] at held
        split at held
        · cases held
        · exact held
      cases ending with
      | created | released => exact left.advance _
      | verified | configured => exact left
    · exact h

/-- **A verification begins under the next number.** -/
theorem verifying_verify (a : Activity) (resourceType resourceId : Option String) :
    (a.step bundles (.verify resourceType resourceId)).1.Verifying a.started := by
  refine verifying_proceed (Nat.lt_succ_self _) (fun _ x returned => ?_) fun other => absurd rfl other
  obtain ⟨result, -, ended⟩ := returned.of_attempt
  exact ⟨result, Routine.MayReturn.of_ofExcept ended⟩

/-- **What happens to a verification leaves the connector alone.** -/
theorem Verifying.connector_step (h : a.Verifying n) {cue : Cue ι} (own : cue.Concerns n) :
    (a.step bundles cue).1.connector = a.connector := by
  rw [Activity.step]
  cases own with
  | reply reply =>
    rw [handle]
    split <;> rfl
  | finish =>
    rw [handle]
    split
    · next ending held =>
      obtain ⟨result, same⟩ := h.verifies _ held _ (.done _)
      obtain rfl := Except.ok.inj same
      rfl
    · rfl

end Activity

/-! ## Discovery -/

/-- **Discovery finds what there is.** A verification of a connector that discovers does what its provider does; of listed
IDs it returns exactly the canonical IDs of those that the resolver accepts, each once, in order of first appearance,
with a warning for every place with an ID of no accepted shape; the first ID that fails in another way ends it with
this failure. And a verification never changes its connector, neither when it is called nor by what happens to it
later, whatever else happens meanwhile and whatever its outcome is. -/
theorem discovery :
    (∀ (c : Connector) (r : Resolver), c.Explores r →
      (∀ deeds result, (c.verify none none).Does deeds result ↔ ∃ asked outcome told,
        (c.type.provider.verify (c.context none) true).Does asked outcome ∧ c.Concludes r outcome told result ∧
        deeds = asked ++ told.map .wrote) ∧
      ∀ outcome, ∃ told result, c.Concludes r outcome told result) ∧
    ∀ (ι : Type) (bundles : ι → Bundle) (a : Activity) (resourceType resourceId : Option String),
      (a.step bundles (.verify resourceType resourceId)).1.connector = a.connector ∧
      ∀ (script : List (Cue ι)) (cue : Cue ι), cue.Concerns a.started →
        let b := Run.after (Activity.step bundles) (a.step bundles (.verify resourceType resourceId)).1 script
        (b.step bundles cue).1.connector = b.connector := by
  refine ⟨fun c r explores => ⟨fun deeds result => explores.does_verify_iff, c.exists_concludes r⟩, ?_⟩
  intro ι bundles a resourceType resourceId
  refine ⟨rfl, fun script cue own => ?_⟩
  have under : (Run.after (Activity.step bundles) (a.step bundles (.verify resourceType resourceId)).1 script).Verifying
      a.started :=
    Run.after_induction _ (a.verifying_verify bundles resourceType resourceId)
      (fun b cue h => h.step bundles cue) script
  exact under.connector_step bundles own

/-- Numbers of lockers; their names are of no accepted shape. -/
def plainNumbers : Resolver where
  resourceType := "locker"
  shapes := [{
    name := "number"
    format := "[0...]number"
    recognise := fun cs =>
      if cs.all Char.isDigit then some (.ok ⟨String.ofList (cs.dropWhile (· = '0')), ∅⟩) else none }]

/-- Lockers that are listed, some of them twice and some of them by name. -/
def listedLockers : ConnectorType where
  spec := { lockers.spec with resourceTypes := [⟨"locker", "Locker", none, true, true, ["code"]⟩] }
  resolvers := .ofList [("locker", plainNumbers)]
  provider := { lockers.provider with verify := fun _ _ => pure (.verified ["007", "attic", "12", "7"]) }

/-- Two lockers are found, in the order in which they are listed. -/
theorem discovery_listedLockers :
    ∃ c, make? listedLockers { lockerSettings with resourceId := none } .silent = .ok c ∧
      (c.verify none none).Does
        [.wrote (c.line .warn "skipping discovered resource \"attic\": not a valid locker ID"),
          .wrote (c.line .info "discovered 2 accessible resource(s)")] (.ok ["7", "12"]) := by
  have made : make? listedLockers { lockerSettings with resourceId := none } .silent = .ok _ := rfl
  have explores : Explores _ plainNumbers := ⟨(described_of_make made).1, rfl, rfl, rfl, rfl⟩
  have lenient : ∀ s ∈ plainNumbers.shapes, ∀ cs failure, s.recognise cs ≠ some (.error failure) := by
    intro s among cs failure
    obtain rfl := List.mem_singleton.1 among
    dsimp only
    split <;> simp
  have found : plainNumbers.Finds ["007", "attic", "12", "7"] ["7", "12"] := plainNumbers.finds_collect _
  exact ⟨_, made, ((discovery.1 _ _ explores).1 _ _).2
    ⟨[], .ok (.verified _), _, .done _, .found (Resolver.readsAll_of_lenient lenient _) found, rfl⟩⟩

end Connector

end ServiceAccess
