import ServiceAccess.Proofs.ClientCache.SideBySide
import ServiceAccess.Proofs.Connector.Activity
import ServiceAccess.Proofs.Connector.Run
import ServiceAccess.Proofs.Provider.Discreet

/-! # Connectors side by side

Two connectors of a discreet type are given the same cues, with bundles that differ in their secrets only. As
long as fingerprints tell the credentials of the one apart exactly when they tell those of the other, what is
seen of the two is the same.

* **`Twins`**: two families of bundles that differ in their secrets only.
* **`Twin`**: connectors that are the same but for their credentials, of which each has those of one family.
* **`Twin.step`**: what happens to both keeps them so, and they ask for what corresponds.
* **`Activity.Twin.step`**: at work they show the same. -/

namespace ServiceAccess.Connector

/-! ## Twins -/

/-- **Two families of bundles that differ in their secrets only**, with the same pattern of equal and
different credentials. -/
structure Twins (type : ConnectorType) (ι : Type) where
  /-- The auth method. -/
  method : AuthMethod
  /-- The connector type declares it. -/
  declared : method ∈ type.spec.methods
  /-- The bundles of the first family. -/
  first : ι → Bundle
  /-- The bundles of the second family. -/
  second : ι → Bundle
  /-- The credentials of the first family. -/
  one : ι → Credentials
  /-- The credentials of the second family. -/
  two : ι → Credentials
  /-- The first family is accepted. -/
  accepted : ∀ i, Credentials.parse method (first i) = .ok (one i)
  /-- The second family is accepted. -/
  accepted' : ∀ i, Credentials.parse method (second i) = .ok (two i)
  /-- Counterparts differ in their secrets only. -/
  agree : ∀ i, method.AgreeInClear (first i) (second i)
  /-- Credentials are the same in one family when they are in the other. -/
  pattern : ∀ i j, one i = one j ↔ two i = two j

namespace Twins

variable {type : ConnectorType} {ι : Type} (T : Twins type ι)

/-- Credentials that are counterparts. -/
def Pair (a a' : Credentials) : Prop := ∃ i, a = T.one i ∧ a' = T.two i

theorem alike (i : ι) : (T.one i).Alike (T.two i) :=
  Credentials.alike_of_accepted (T.accepted i) (T.accepted' i) (T.agree i)

/-- Counterparts take each other's place. -/
theorem pairing : T.method.Pairing T.Pair where
  accepted := by
    rintro a a' ⟨i, rfl, rfl⟩
    exact ⟨_, T.accepted i⟩
  accepted' := by
    rintro a a' ⟨i, rfl, rfl⟩
    exact ⟨_, T.accepted' i⟩
  alike := by
    rintro a a' ⟨i, rfl, rfl⟩
    exact T.alike i
  eq_iff := by
    rintro a a' b b' ⟨i, rfl, rfl⟩ ⟨j, rfl, rfl⟩
    exact T.pattern i j

/-- Fingerprints tell credentials of one family apart when they do so for the other. -/
def Distinguished : Prop :=
  ∀ i j, (T.one i).fingerprint = (T.one j).fingerprint ↔ (T.two i).fingerprint = (T.two j).fingerprint

/-- Requests for the same target with credentials that are counterparts. -/
inductive Request : Context → Context → Prop
  /-- The credentials, the resource type and the target. -/
  | mk {a a' : Credentials} (r : ResourceType) (resource : Option ResourceId) :
      T.Pair a a' → Request ⟨type.spec, T.method, a, r, resource⟩ ⟨type.spec, T.method, a', r, resource⟩

variable {R : Client → Client → Prop} {able : Prop}

/-- **What corresponds in the caches of twins.** Where no call can be made, no fingerprints come in. -/
def link (veils : type.Veils T.method T.Pair R) (apart : able → T.Distinguished) :
    ClientCache.Link Context Client where
  request := T.Request
  client := R
  fingerprint f f' := able ∧ ∃ i, f = (T.one i).fingerprint ∧ f' = (T.two i).fingerprint
  client_iff := veils.client_iff
  fingerprint_iff := by
    rintro f f' g g' ⟨can, i, rfl, rfl⟩ ⟨-, j, rfl, rfl⟩
    exact apart can i j

/-- Counterparts are told from others in the same way. -/
theorem link_stale (veils : type.Veils T.method T.Pair R) (apart : able → T.Distinguished) (i : ι) :
    ∀ g g', (T.link veils apart).fingerprint g g' →
      (g = (T.one i).fingerprint ↔ g' = (T.two i).fingerprint) := by
  rintro g g' ⟨can, j, rfl, rfl⟩
  exact apart can j i

end Twins

/-! ## Connectors -/

section

variable {type : ConnectorType} {ι : Type} {T : Twins type ι} {R : Client → Client → Prop} {able : Prop}
  {veils : type.Veils T.method T.Pair R} {apart : able → T.Distinguished} {c c' : Connector}

/-- **Connectors that are the same but for their credentials**, which are counterparts. -/
structure Twin (veils : type.Veils T.method T.Pair R) (apart : able → T.Distinguished)
    (c c' : Connector) : Prop where
  /-- The connector type. -/
  type : c.type = type
  /-- The auth method. -/
  method : c.method = T.method
  /-- Both are bound to the same. -/
  keeps : c.Keeps c'
  /-- Both have the same name. -/
  name : c'.name = c.name
  /-- The credentials are counterparts, and each fingerprint is that of its credentials. -/
  current : ∃ i, (c.credentials = T.one i ∧ c'.credentials = T.two i) ∧
    c.fingerprint = (T.one i).fingerprint ∧ c'.fingerprint = (T.two i).fingerprint
  /-- The caches are alike. -/
  cache : ClientCache.Alike (T.link veils apart) c.cache c'.cache
  /-- A call that has a target can be made. -/
  able : ∀ r resource, c.target r = .ok resource → able

/-- Effects that correspond. -/
inductive Effect.Alike (L : ClientCache.Link Context Client) : Effect → Effect → Prop
  /-- The same log line. -/
  | log (line : LogLine) : Alike L (.log line) (.log line)
  /-- Handshakes of the same number. -/
  | create (generation : Nat) {context context' : Context} :
      L.request context context' → Alike L (.create generation context) (.create generation context')
  /-- Releases of the same number. -/
  | dispose (release : Nat) {x x' : Client} :
      L.client x x' → Alike L (.dispose release x) (.dispose release x')
  /-- Answers to the same call. -/
  | settled (call : Nat) {o o' : Except Failure (ClientCache.Answer Client)} :
      Results.Related (ClientCache.Answer.Alike L) o o' → Alike L (.settled call o) (.settled call o')
  /-- The same refusal. -/
  | refused (failure : Failure) : Alike L (.refused failure) (.refused failure)

/-- Steps to connectors that are twins, with effects that correspond. -/
def Turn.Twin (veils : type.Veils T.method T.Pair R) (apart : able → T.Distinguished)
    (t t' : Turn) : Prop :=
  Connector.Twin veils apart t.1 t'.1 ∧ List.Forall₂ (Effect.Alike (T.link veils apart)) t.2 t'.2

namespace Twin

theorem line (h : Twin veils apart c c') (level : Level) (message : String) :
    c'.line level message = c.line level message := by
  simp only [Connector.line, label, typeId, h.name, h.keeps.type]

/-- What the providers are told about calls of twins. -/
theorem exists_context (h : Twin veils apart c c') : ∃ i, T.Pair (T.one i) (T.two i) ∧ ∀ resource,
    c.context resource = ⟨type.spec, T.method, T.one i, c.resourceType, resource⟩ ∧
    c'.context resource = ⟨type.spec, T.method, T.two i, c.resourceType, resource⟩ := by
  obtain ⟨i, ⟨one, two⟩, -⟩ := h.current
  refine ⟨i, ⟨i, rfl, rfl⟩, fun resource => ?_⟩
  simp only [Connector.context, h.keeps.type, h.keeps.method, h.keeps.resourceType, h.type, h.method,
    one, two, and_self]

/-- Twins request for the same target with credentials that are counterparts. -/
theorem context (h : Twin veils apart c c') (resource : Option ResourceId) :
    T.Request (c.context resource) (c'.context resource) := by
  obtain ⟨i, pair, contexts⟩ := h.exists_context
  rw [(contexts resource).1, (contexts resource).2]
  exact .mk _ _ pair

/-- What the caches ask for is what the connectors ask for. -/
theorem ofCacheEffect (h : Twin veils apart c c') {e e' : ClientCache.Effect Context Client Failure}
    (same : ClientCache.Effect.Alike (T.link veils apart) e e') :
    List.Forall₂ (Effect.Alike (T.link veils apart)) (c.ofCacheEffect e) (c'.ofCacheEffect e') := by
  cases same with
  | note n =>
    rw [Connector.ofCacheEffect, Connector.ofCacheEffect, h.line]
    exact .cons (.log _) .nil
  | create generation request => exact .cons (.create _ request) .nil
  | dispose release client => exact .cons (.dispose _ client) .nil
  | settled call outcome =>
    cases outcome with
    | error failure => exact .cons (.settled _ (.error _)) .nil
    | ok answer =>
      cases answer with
      | client same => exact .cons (.settled _ (.ok (.client same))) .nil
      | done => exact .cons (.settled _ (.ok .done)) .nil
      | count n =>
        simp only [Connector.ofCacheEffect, h.line]
        split
        · exact .cons (.settled _ (.ok (.count _))) .nil
        · exact .cons (.log _) (.cons (.settled _ (.ok (.count _))) .nil)

/-- Steps of caches that are alike are steps of twins. -/
theorem withCache (h : Twin veils apart c c') {t t' : ClientCache.Turn Context Client Failure}
    (same : ClientCache.Turn.Alike (T.link veils apart) t t') :
    Turn.Twin veils apart (c.withCache t) (c'.withCache t') :=
  ⟨{ h with keeps := { h.keeps with }, cache := same.1 },
    List.rel_flatMap same.2 fun _ _ effect => h.ofCacheEffect effect⟩

/-- The credentials of twins become those of other counterparts. -/
theorem adopt (h : Twin veils apart c c') (i : ι) :
    Turn.Twin veils apart (c.adopt (T.one i)) (c'.adopt (T.two i)) := by
  have adopted : Twin veils apart
      { c with credentials := T.one i, fingerprint := (T.one i).fingerprint }
      { c' with credentials := T.two i, fingerprint := (T.two i).fingerprint } :=
    { h with keeps := { h.keeps with }, current := ⟨i, ⟨rfl, rfl⟩, rfl, rfl⟩ }
  exact adopted.withCache (adopted.cache.evictStale (T.link_stale veils apart i))

end Twin

/-- Inputs that correspond. -/
inductive Input.Alike (T : Twins type ι) (R : Client → Client → Prop) : Input → Input → Prop
  /-- A client is wanted for the same target. -/
  | connect (resourceId : Option String) : Alike T R (.connect resourceId) (.connect resourceId)
  /-- The credentials are to be replaced by counterparts. -/
  | rotate (i : ι) : Alike T R (.rotate (T.first i)) (.rotate (T.second i))
  /-- All clients are to be released. -/
  | disconnect : Alike T R .disconnect .disconnect
  /-- The same handshake has ended. -/
  | created (generation : Nat) {o o' : Except Failure Client} :
      Results.Related R o o' → Alike T R (.created generation o) (.created generation o')
  /-- The same release has ended. -/
  | released (release : Nat) (result : Except Failure Unit) :
      Alike T R (.released release result) (.released release result)
  /-- The oldest continuation runs. -/
  | resume : Alike T R .resume .resume

/-- **What happens to both keeps twins twins**, and they ask for what corresponds. -/
theorem Twin.step (h : Twin veils apart c c') {i i' : Input} (same : Input.Alike T R i i') :
    Turn.Twin veils apart (c.step i) (c'.step i') := by
  cases same with
  | connect r =>
    simp only [Connector.step, connect, h.keeps.target]
    cases target : c.target r with
    | error failure => exact ⟨h, .cons (.refused _) .nil⟩
    | ok resource =>
      obtain ⟨i, -, one, two⟩ := h.current
      exact h.withCache (h.cache.acquire _ ⟨h.able r resource target, i, one, two⟩ (h.context resource))
  | rotate i =>
    simp only [Connector.step, rotate, h.keeps.method, h.method, T.accepted, T.accepted']
    exact h.adopt i
  | disconnect => exact h.withCache h.cache.clear
  | created generation outcome => exact h.withCache (h.cache.settleCreation generation outcome)
  | released release result => exact h.withCache (h.cache.settleRelease release result)
  | resume => exact h.withCache h.cache.resume

/-! ## What connectors show -/

/-- **Connectors show nothing of secrets**: with credentials that are alike they are written in the same
way. -/
theorem shown_of_alike (keeps : c.Keeps c') (name : c'.name = c.name)
    (alike : c.credentials.Alike c'.credentials) :
    c.toJson = c'.toJson ∧ c.record false = c'.record false := by
  have stored : c.credentials.values.map (fun _ v => v.stored false)
      = c'.credentials.values.map fun _ v => v.stored false :=
    Table.ext (alike.map_entries fun v => by cases v <;> rfl)
  constructor
  · simp only [toJson, typeId, resourceId, keeps.type, keeps.method, keeps.resourceType, keeps.resource,
      name, alike.shown.2.1]
  · simp only [record, typeId, resourceId, keeps.type, keeps.method, keeps.resourceType, keeps.resource,
      name, stored]

namespace Twin

theorem shown (h : Twin veils apart c c') : c.toJson = c'.toJson ∧ c.record false = c'.record false := by
  obtain ⟨i, ⟨one, two⟩, -⟩ := h.current
  exact shown_of_alike h.keeps h.name (by rw [one, two]; exact T.alike i)

theorem state (h : Twin veils apart c c') : c.state = c'.state := by
  obtain ⟨i, -, one, two⟩ := h.current
  rw [Connector.state, Connector.state, isConnected, isConnected, one, two,
    h.cache.hasFingerprint (T.link_stale veils apart i)]

end Twin

/-! ## Routines -/

namespace Twin

theorem log (h : Twin veils apart c c') (level : Level) (message : String) :
    c'.log level message = c.log level message := by
  simp only [Connector.log, h.line]

theorem canonicalIds (h : Twin veils apart c c') (resolver : Resolver) (listed found : List String) :
    c'.canonicalIds resolver listed found = c.canonicalIds resolver listed found := by
  induction listed generalizing found with
  | nil => rfl
  | cons raw rest ih =>
    simp only [Connector.canonicalIds, h.log, ih]

theorem discovered (h : Twin veils apart c c') (listed : List String) :
    c'.discovered listed = c.discovered listed := by
  simp only [Connector.discovered, h.log, h.canonicalIds, h.keeps.type, h.keeps.resourceType]

/-- Verifications of twins go on alike. -/
theorem verify (h : Twin veils apart c c') (resourceType resourceId : Option String) :
    Routine.Alike Eq (c.verify resourceType resourceId) (c'.verify resourceType resourceId) := by
  have target : c'.verificationTarget resourceType resourceId
      = c.verificationTarget resourceType resourceId := by
    simp only [verificationTarget, h.keeps.type, h.keeps.resourceType, h.keeps.resource]
  rw [Connector.verify, Connector.verify, target]
  cases c.verificationTarget resourceType resourceId with
  | error failure => exact .refl _
  | ok resource =>
    obtain ⟨i, pair, contexts⟩ := h.exists_context
    obtain ⟨context, context'⟩ := contexts resource
    simp only [Routine.ofExcept_ok_bind, context, context', h.keeps.type, h.type,
      h.keeps.resourceType, h.log, h.discovered]
    refine (veils.verify pair _ _ _).bind ?_
    rintro outcome _ rfl
    exact .refl _

/-- The set-ups of the local tool of twins go on alike. -/
theorem configureLocal (h : Twin veils apart c c') (resourceId : Option String) :
    Routine.Alike Eq (c.configureLocal resourceId) (c'.configureLocal resourceId) := by
  simp only [Connector.configureLocal, typeId, h.keeps.type, h.type, h.keeps.resourceType,
    h.keeps.target, h.log]
  cases set : type.provider.configureLocal with
  | none => exact .refl _
  | some configure =>
    cases c.target resourceId with
    | error failure => exact .refl _
    | ok resource =>
      obtain ⟨i, pair, contexts⟩ := h.exists_context
      obtain ⟨context, context'⟩ := contexts resource
      simp only [Routine.ofExcept_ok_bind, context, context']
      refine (veils.configureLocal configure set pair _ _).bind ?_
      rintro outcome _ rfl
      exact .refl _

end Twin

/-! ## At work -/

/-- Ends of routines that correspond. -/
inductive Ending.Alike (R : Client → Client → Prop) : Ending → Ending → Prop
  /-- The same handshake. -/
  | created (generation : Nat) {o o' : Except Failure Client} :
      Results.Related R o o' → Alike R (.created generation o) (.created generation o')
  /-- The same release. -/
  | released (release : Nat) (result : Except Failure Unit) :
      Alike R (.released release result) (.released release result)
  /-- The same end of a verification. -/
  | verified (result : Except Failure (List String)) : Alike R (.verified result) (.verified result)
  /-- The same end of a set-up of the local tool. -/
  | configured (result : Except Failure Unit) : Alike R (.configured result) (.configured result)

/-- **Connectors at work that are the same but for their credentials.** -/
structure Activity.Twin (veils : type.Veils T.method T.Pair R) (apart : able → T.Distinguished)
    (a a' : Activity) : Prop where
  /-- The connectors. -/
  connector : Connector.Twin veils apart a.connector a'.connector
  /-- The routines under way. -/
  threads : Table.Related (Routine.Alike (Ending.Alike R)) a.threads a'.threads
  /-- The number of the next routine. -/
  started : a.started = a'.started
  /-- The next handle. -/
  handles : a.handles = a'.handles

/-- What leads to twins at work and shows the same. -/
def Activity.Same (veils : type.Veils T.method T.Pair R) (apart : able → T.Distinguished)
    (t t' : Activity × List Sight) : Prop :=
  Activity.Twin veils apart t.1 t'.1 ∧ t.2 = t'.2

namespace Activity.Twin

variable {a a' : Activity}

theorem proceed (h : Twin veils apart a a') (thread : Nat) {p p' : Routine Ending}
    (same : Routine.Alike (Ending.Alike R) p p') :
    Same veils apart (a.proceed thread p) (a'.proceed thread p') := by
  obtain ⟨lines, rest, handles⟩ := same.proceed a.handles
  simp only [Activity.proceed, ← h.handles]
  exact ⟨{ h with threads := h.threads.insert thread rest, handles := handles }, by rw [lines]⟩

/-- Routines that are alike are started alike when their ends correspond. -/
theorem start {α : Type} {S : α → α → Prop} (h : Twin veils apart a a') {p p' : Routine α}
    (same : Routine.Alike S p p') {ending : Except Failure α → Ending}
    (ends : ∀ o o', Results.Related S o o' → Ending.Alike R (ending o) (ending o')) :
    Same veils apart (a.start p ending) (a'.start p' ending) := by
  have counted : Twin veils apart { a with started := a.started + 1 }
      { a' with started := a'.started + 1 } := { h with started := congrArg (· + 1) h.started }
  have program := same.attempt (S := Ending.Alike R)
    (f := fun result => .done (.ok (ending result))) (g := fun result => .done (.ok (ending result)))
    fun o o' related => .done (.ok (ends o o' related))
  simp only [Activity.start, ← h.started] at counted ⊢
  exact counted.proceed _ program

theorem releasing (h : Twin veils apart a a') {x x' : Client} (same : R x x') :
    Routine.Alike Eq (a.releasing x) (a'.releasing x') := by
  simp only [Activity.releasing, h.connector.keeps.type, h.connector.type]
  cases set : type.provider.disconnect with
  | none => exact .refl _
  | some release => exact veils.disconnect release set same

/-- What is seen of answers that correspond is the same. -/
theorem seen {L : ClientCache.Link Context Client} {x x' : ClientCache.Answer Client}
    (same : ClientCache.Answer.Alike L x x') : Activity.seen x = Activity.seen x' := by
  cases same <;> rfl

theorem perform (h : Twin veils apart a a') {e e' : Effect}
    (same : Effect.Alike (T.link veils apart) e e') :
    Same veils apart (a.perform e) (a'.perform e') := by
  cases same with
  | log line => exact ⟨h, rfl⟩
  | create generation request =>
    cases request with
    | mk r resource pair =>
      simp only [Activity.perform, h.connector.keeps.type, h.connector.type]
      exact h.start (veils.connect pair r resource) fun _ _ related => .created generation related
  | dispose release client =>
    refine h.start (h.releasing client) fun o o' related => ?_
    rw [related.eq]
    exact .released release o'
  | settled call outcome =>
    have shown := (outcome.map fun _ _ answer => seen answer).eq
    exact ⟨h, congrArg (fun result => [Sight.settled call result]) shown⟩
  | refused failure => exact ⟨h, rfl⟩

/-- Effects that correspond, one after another, show the same. -/
theorem performAll {effects effects' : List Effect}
    (same : List.Forall₂ (Effect.Alike (T.link veils apart)) effects effects')
    (h : Twin veils apart a a') : Same veils apart (a.performAll effects) (a'.performAll effects') := by
  induction same generalizing a a' with
  | nil => exact ⟨h, rfl⟩
  | cons first _ ih =>
    obtain ⟨next, shown⟩ := h.perform first
    obtain ⟨last, others⟩ := ih next
    exact ⟨last, congrArg₂ (· ++ ·) shown others⟩

theorem advance (h : Twin veils apart a a') {i i' : Input} (same : Input.Alike T R i i') :
    Same veils apart (a.advance i) (a'.advance i') := by
  obtain ⟨twin, effects⟩ := h.connector.step same
  have stepped : Twin veils apart { a with connector := (a.connector.step i).1 }
      { a' with connector := (a'.connector.step i').1 } := { h with connector := twin }
  exact performAll effects stepped

theorem complete (h : Twin veils apart a a') (thread : Nat) {e e' : Ending}
    (same : Ending.Alike R e e') : Same veils apart (a.complete thread e) (a'.complete thread e') := by
  cases same with
  | created generation outcome => exact h.advance (.created generation outcome)
  | released release result => exact h.advance (.released release result)
  | verified result => exact ⟨h, rfl⟩
  | configured result => exact ⟨h, rfl⟩

/-- The end of a routine takes effect on both sides, or on neither. -/
theorem finish (h : Twin veils apart a a') (thread : Nat) :
    Same veils apart (a.handle T.first (.finish thread)) (a'.handle T.second (.finish thread)) := by
  rw [Activity.handle, Activity.handle]
  rcases h.threads.get?_cases thread with ⟨none, none'⟩ | ⟨p, p', some, some', alike⟩
  · rw [none, none']
    exact ⟨h, rfl⟩
  · rw [some, some']
    cases alike with
    | done result =>
      cases result with
      | error failure => exact ⟨h, rfl⟩
      | ok ending =>
        have erased : Twin veils apart { a with threads := a.threads.erase thread }
            { a' with threads := a'.threads.erase thread } :=
          { h with threads := h.threads.erase thread }
        exact erased.complete thread ending
    | note | ask | listing | allocate | close => exact ⟨h, rfl⟩

/-- A reply comes in on both sides, or on neither. -/
theorem reply (h : Twin veils apart a a') (thread : Nat) (reply : Reply) :
    Same veils apart (a.handle T.first (.reply thread reply))
      (a'.handle T.second (.reply thread reply)) := by
  have reacted : Option.Rel (Routine.Alike (Ending.Alike R))
      ((a.threads.get? thread).bind fun program => program.react reply)
      ((a'.threads.get? thread).bind fun program => program.react reply) := by
    rcases h.threads.get?_cases thread with ⟨none, none'⟩ | ⟨p, p', some, some', alike⟩
    · rw [none, none']
      exact .none
    · rw [some, some']
      exact alike.react reply
  simp only [Activity.handle]
  generalize (a.threads.get? thread).bind _ = next at reacted ⊢
  generalize (a'.threads.get? thread).bind _ = next' at reacted ⊢
  cases reacted with
  | none => exact ⟨h, rfl⟩
  | some alike => exact h.proceed thread alike

/-- **On the same cue twins show the same.** -/
theorem handle (h : Twin veils apart a a') (cue : Cue ι) :
    Same veils apart (a.handle T.first cue) (a'.handle T.second cue) := by
  cases cue with
  | connect r => exact h.advance (.connect r)
  | rotate i => exact h.advance (.rotate i)
  | disconnect => exact h.advance .disconnect
  | verify resourceType r =>
    refine h.start (h.connector.verify resourceType r) fun o o' related => ?_
    rw [related.eq]
    exact .verified o'
  | configureLocal r =>
    refine h.start (h.connector.configureLocal r) fun o o' related => ?_
    rw [related.eq]
    exact .configured o'
  | canonical resourceType raw =>
    refine ⟨h, ?_⟩
    simp only [Activity.handle, canonicalResourceId, h.connector.keeps.type]
  | reply thread reply => exact h.reply thread reply
  | finish thread => exact h.finish thread
  | resume => exact h.advance .resume

/-- Twins show the same of themselves. -/
theorem view (h : Twin veils apart a a') : a.view = a'.view := by
  obtain ⟨json, record⟩ := h.connector.shown
  rw [Activity.view, Activity.view, h.connector.state, json, record]

/-- **On the same cue twins show the same**, and after it. -/
theorem step (h : Twin veils apart a a') (cue : Cue ι) :
    Same veils apart (a.step T.first cue) (a'.step T.second cue) := by
  obtain ⟨next, shown⟩ := h.handle cue
  exact ⟨next, by rw [Activity.step, Activity.step, shown, next.view]⟩

/-- **Twins show the same in the course of a script.** -/
theorem trace (h : Twin veils apart a a') (script : List (Cue ι)) :
    Run.trace (Activity.step T.first) a script = Run.trace (Activity.step T.second) a' script := by
  induction script generalizing a a' with
  | nil => rfl
  | cons cue rest ih =>
    obtain ⟨next, shown⟩ := h.step cue
    rw [Run.trace_cons, Run.trace_cons, shown, ih next]

end Activity.Twin

end

end ServiceAccess.Connector
