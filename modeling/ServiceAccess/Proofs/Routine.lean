import ServiceAccess.Proofs.Routine.Deeds

/-! # Routines side by side

Outside services answer the questions of a routine with replies. Two routines are alike when nothing of what
they write shows a difference, whatever the replies are: the same log lines, questions that the same replies
answer, and results that are related.

* **`Routine.proceed`** and **`Routine.react`**: a routine goes on to its next question, and a reply comes in.
* **`Routine.MayReturn`**: what a routine may return; **`Routine.mayReturn_iff`**: some run of it returns it.
* **`Routine.Alike`**: routines side by side, one constructor for each of theirs.
* **`Routine.Alike.attempt`**, **`Routine.Alike.proceed`**, **`Routine.Alike.react`**: what keeps them so. -/

namespace ServiceAccess

/-! ## Results -/

/-- Results that are related: two related successes, or the same failure. -/
inductive Results.Related {ε α β : Type} (R : α → β → Prop) : Except ε α → Except ε β → Prop
  /-- Two related successes. -/
  | ok {a : α} {b : β} : R a b → Related R (.ok a) (.ok b)
  /-- The same failure. -/
  | error (failure : ε) : Related R (.error failure) (.error failure)

namespace Results

variable {ε α β γ δ : Type}

theorem Related.refl (x : Except ε α) : Related Eq x x := by
  cases x with
  | ok a => exact .ok rfl
  | error failure => exact .error failure

/-- Results that are related by being equal are equal. -/
theorem Related.eq {x y : Except ε α} (h : Related Eq x y) : x = y := by
  cases h with
  | ok same => rw [same]
  | error => rfl

theorem Related.map {R : α → β → Prop} {S : γ → δ → Prop} {f : α → γ} {g : β → δ}
    (same : ∀ a b, R a b → S (f a) (g b)) {x : Except ε α} {y : Except ε β}
    (h : Related R x y) : Related S (x.map f) (y.map g) := by
  cases h with
  | ok related => exact .ok (same _ _ related)
  | error failure => exact .error failure

/-- After related successes results may go on related. -/
theorem Related.bind {R : α → β → Prop} {S : γ → δ → Prop} {x : Except ε α} {y : Except ε β}
    (h : Related R x y) {f : α → Except ε γ} {g : β → Except ε δ}
    (next : ∀ a b, R a b → Related S (f a) (g b)) : Related S (x >>= f) (y >>= g) := by
  cases h with
  | ok related => exact next _ _ related
  | error failure => exact .error failure

end Results

/-! ## Replies -/

/-- What an outside service replies. -/
inductive Reply where
  /-- The question failed. -/
  | failed (failure : Failure)
  /-- It is done. -/
  | done
  /-- A tool has run. -/
  | ran (result : ToolResult)
  /-- Who the caller is. -/
  | identity (caller : CallerIdentity)
  /-- The buckets that are there. -/
  | buckets (names : List String)
  /-- The access keys of a profile. -/
  | keys (keys : AccessKeys)
  /-- A client of an extension. -/
  | client (client : ExtensionClient)
  /-- What a verification found out. -/
  | outcome (outcome : VerifyOutcome)
  /-- A page of a listing. -/
  | page (page : BucketPage)

namespace Reply

/-- What a reply says in answer to a question, if it is an answer to it. -/
def value? : Reply → (q : Query) → Option q.Answer
  | .done, .ping _ => some ()
  | .done, .login .. => some ()
  | .ran result, .runTool .. => some result
  | .identity caller, .callerIdentity .. => some caller
  | .buckets names, .buckets .. => some names
  | .done, .bucketExists .. => some ()
  | .identity caller, .sendIdentity _ => some caller
  | .done, .sendHead .. => some ()
  | .keys held, .profile _ => some held
  | .client made, .extension _ (.connect ..) => some made
  | .outcome found, .extension _ (.verify ..) => some found
  | .done, .extension _ (.release _) => some ()
  | .done, .extension _ (.configureLocal _) => some ()
  | .done, .extension _ (.autoConfigure _) => some ()
  | _, _ => none

/-- A reply as the answer to a question. -/
def answer? (r : Reply) (q : Query) : Option (Except Failure q.Answer) :=
  match r with
  | .failed failure => some (.error failure)
  | r => (r.value? q).map .ok

/-- A reply as the answer to a request for a page. -/
def page? : Reply → Option (Except Failure BucketPage)
  | .failed failure => some (.error failure)
  | .page p => some (.ok p)
  | _ => none

end Reply

namespace Routine

variable {α β γ δ : Type}

/-- What follows a result goes on with it. -/
theorem ofExcept_ok_bind (a : α) (f : α → Routine β) : (ofExcept (.ok a) >>= f) = f a := rfl

/-- Go on to the next question or the end: the log lines until then, what is left, and the next handle. -/
def proceed : Routine α → (handle : Handle) → List LogLine × Routine α × Handle
  | .note level message next, handle =>
    (⟨level, message⟩ :: (next.proceed handle).1, (next.proceed handle).2)
  | .allocate next, handle => (next handle).proceed (handle + 1)
  | .close _ next, handle => next.proceed handle
  | .done result, handle => ([], .done result, handle)
  | .ask query next, handle => ([], .ask query next, handle)
  | .listing client token found next, handle => ([], .listing client token found next, handle)

/-- A reply comes in, if it answers what the routine asks. -/
def react (r : Routine α) (reply : Reply) : Option (Routine α) :=
  match r with
  | .ask query next => (reply.answer? query).map next
  | .listing client _ found next => reply.page?.map (turnPage client found next)
  | _ => none

/-! ## What a routine may return -/

/-- **What a routine may return**, for some answers of its surroundings. -/
inductive MayReturn {α : Type} : Routine α → Except Failure α → Prop
  /-- The routine has ended. -/
  | done (result : Except Failure α) : MayReturn (.done result) result
  /-- A line is written. -/
  | note {level : Level} {message : String} {r : Routine α} {result : Except Failure α} :
      MayReturn r result → MayReturn (.note level message r) result
  /-- A question is answered. -/
  | ask {query : Query} {next : Except Failure query.Answer → Routine α} {result : Except Failure α}
      (answer : Except Failure query.Answer) :
      MayReturn (next answer) result → MayReturn (.ask query next) result
  /-- A page of a listing comes in. -/
  | page {client : CloudClient} {token : Option String} {found : List String}
      {next : Except Failure (List String) → Routine α} {result : Except Failure α}
      (answer : Except Failure BucketPage) :
      MayReturn (turnPage client found next answer) result →
      MayReturn (.listing client token found next) result
  /-- A handle is taken. -/
  | allocate {next : Handle → Routine α} {result : Except Failure α} (handle : Handle) :
      MayReturn (next handle) result → MayReturn (.allocate next) result
  /-- A client is closed. -/
  | close {client : CloudClient} {r : Routine α} {result : Except Failure α} :
      MayReturn r result → MayReturn (.close client r) result

/-- What may be returned is what some run returns. -/
theorem mayReturn_iff {r : Routine α} {x : Except Failure α} : r.MayReturn x ↔ ∃ deeds, r.Does deeds x := by
  constructor
  · intro h
    induction h with
    | done result => exact ⟨_, .done result⟩
    | note _ ih =>
      obtain ⟨deeds, run⟩ := ih
      exact ⟨_, .note run⟩
    | ask answer _ ih =>
      obtain ⟨deeds, run⟩ := ih
      exact ⟨_, .ask answer run⟩
    | page answer _ ih =>
      obtain ⟨deeds, run⟩ := ih
      exact ⟨_, .listing answer run⟩
    | allocate handle _ ih =>
      obtain ⟨deeds, run⟩ := ih
      exact ⟨_, .allocate handle run⟩
    | close _ ih =>
      obtain ⟨deeds, run⟩ := ih
      exact ⟨_, .close run⟩
  · rintro ⟨deeds, run⟩
    induction run with
    | done result => exact .done result
    | note _ ih => exact .note ih
    | ask answer _ ih => exact .ask answer ih
    | listing answer _ ih => exact .page answer ih
    | allocate handle _ ih => exact .allocate handle ih
    | close _ ih => exact .close ih

/-- What a result is followed by returns after the result. -/
theorem MayReturn.of_attempt {r : Routine α} {f : Except Failure α → Routine β}
    {y : Except Failure β} (h : (r.attempt f).MayReturn y) :
    ∃ x, r.MayReturn x ∧ (f x).MayReturn y := by
  obtain ⟨deeds, run⟩ := mayReturn_iff.1 h
  obtain ⟨first, x, later, run, goesOn, -⟩ := does_attempt_iff.1 run
  exact ⟨x, mayReturn_iff.2 ⟨first, run⟩, mayReturn_iff.2 ⟨later, goesOn⟩⟩

/-- What a success is followed by succeeds after it. -/
theorem MayReturn.of_bind {r : Routine α} {f : α → Routine β} {b : β}
    (h : (r >>= f).MayReturn (.ok b)) : ∃ a, r.MayReturn (.ok a) ∧ (f a).MayReturn (.ok b) := by
  obtain ⟨x, first, last⟩ := MayReturn.of_attempt h
  cases x with
  | ok a => exact ⟨a, first, last⟩
  | error => cases last

/-- A result is what is returned. -/
theorem MayReturn.of_ofExcept {x y : Except Failure α} (h : (ofExcept x).MayReturn y) : y = x := by
  cases h
  rfl

/-- At its next question a routine may return nothing else than before. -/
theorem MayReturn.of_proceed {r : Routine α} {handle : Handle} {x : Except Failure α}
    (h : (r.proceed handle).2.1.MayReturn x) : r.MayReturn x := by
  induction r generalizing handle with
  | note level message next ih => exact .note (ih h)
  | allocate next ih => exact .allocate handle (ih handle h)
  | close client next ih => exact .close (ih h)
  | done | ask | listing => exact h

/-- Neither may it after a reply. -/
theorem MayReturn.of_react {r next : Routine α} {reply : Reply} {x : Except Failure α}
    (reacts : r.react reply = some next) (h : next.MayReturn x) : r.MayReturn x := by
  cases r with
  | ask query later =>
    obtain ⟨answer, -, rfl⟩ := Option.map_eq_some_iff.1 reacts
    exact .ask answer h
  | listing client token found later =>
    obtain ⟨answer, -, rfl⟩ := Option.map_eq_some_iff.1 reacts
    exact .page answer h
  | done | note | allocate | close => cases reacts

/-! ## Alike -/

/-- **Routines that show no difference**, whatever the replies to their questions are. -/
inductive Alike (R : α → β → Prop) : Routine α → Routine β → Prop
  /-- They end with related results. -/
  | done {x : Except Failure α} {y : Except Failure β} : Results.Related R x y → Alike R (.done x) (.done y)
  /-- They write the same line. -/
  | note {level : Level} {message : String} {r : Routine α} {s : Routine β} :
      Alike R r s → Alike R (.note level message r) (.note level message s)
  /-- They ask questions that the same replies answer, and go on alike after each of them. -/
  | ask {q q' : Query} {f : Except Failure q.Answer → Routine α} {g : Except Failure q'.Answer → Routine β} :
      (∀ reply : Reply, (reply.answer? q).isSome = (reply.answer? q').isSome) →
      (∀ (reply : Reply) a a', reply.answer? q = some a → reply.answer? q' = some a' →
        Alike R (f a) (g a')) → Alike R (.ask q f) (.ask q' g)
  /-- They list buckets, of which they have found the same. -/
  | listing {client client' : CloudClient} {token token' : Option String} {found : List String}
      {f : Except Failure (List String) → Routine α} {g : Except Failure (List String) → Routine β} :
      (∀ result, Alike R (f result) (g result)) →
      Alike R (.listing client token found f) (.listing client' token' found g)
  /-- They take a handle. -/
  | allocate {f : Handle → Routine α} {g : Handle → Routine β} :
      (∀ handle, Alike R (f handle) (g handle)) → Alike R (.allocate f) (.allocate g)
  /-- They close clients. -/
  | close {client client' : CloudClient} {r : Routine α} {s : Routine β} :
      Alike R r s → Alike R (.close client r) (.close client' s)

namespace Alike

variable {R : α → β → Prop} {r : Routine α} {s : Routine β}

theorem refl (r : Routine α) : Alike Eq r r := by
  induction r with
  | done result => exact .done (.refl result)
  | note level message next ih => exact .note ih
  | ask query next ih =>
    refine .ask (fun _ => rfl) fun reply a a' answer answer' => ?_
    obtain rfl : a = a' := Option.some.inj (answer.symm.trans answer')
    exact ih a
  | listing client token found next ih => exact .listing ih
  | allocate next ih => exact .allocate ih
  | close client next ih => exact .close ih

/-- Questions to which every reply says the same are asked alike. -/
theorem ask_through {q q' : Query} {f : Except Failure q.Answer → Routine α}
    {g : Except Failure q'.Answer → Routine β} (read : Except Failure q.Answer → Except Failure q'.Answer)
    (same : ∀ reply : Reply, reply.answer? q' = (reply.answer? q).map read)
    (next : ∀ answer, Alike R (f answer) (g (read answer))) : Alike R (.ask q f) (.ask q' g) := by
  refine .ask (fun reply => ?_) fun reply a a' answer answer' => ?_
  · rw [same, Option.isSome_map]
  · rw [same, answer, Option.map_some, Option.some.injEq] at answer'
    rw [← answer']
    exact next a

/-- What follows routines that are alike may go on alike. -/
theorem attempt {S : γ → δ → Prop} {f : Except Failure α → Routine γ} {g : Except Failure β → Routine δ}
    (h : Alike R r s) (next : ∀ x y, Results.Related R x y → Alike S (f x) (g y)) :
    Alike S (r.attempt f) (s.attempt g) := by
  induction h with
  | done related => exact next _ _ related
  | note _ ih => exact .note ih
  | ask answered _ ih => exact .ask answered fun reply a a' answer answer' => ih reply a a' answer answer'
  | listing _ ih => exact .listing ih
  | allocate _ ih => exact .allocate ih
  | close _ ih => exact .close ih

/-- After success routines that are alike may go on alike. -/
theorem bind {S : γ → δ → Prop} {f : α → Routine γ} {g : β → Routine δ} (h : Alike R r s)
    (next : ∀ a b, R a b → Alike S (f a) (g b)) : Alike S (r >>= f) (s >>= g) := by
  refine h.attempt fun x y related => ?_
  cases related with
  | ok related => exact next _ _ related
  | error failure => exact .done (.error failure)

/-- A page comes in for listings that are alike. -/
theorem turnPage {client client' : CloudClient} {found : List String}
    {f : Except Failure (List String) → Routine α} {g : Except Failure (List String) → Routine β}
    (next : ∀ result, Alike R (f result) (g result)) (answer : Except Failure BucketPage) :
    Alike R (Routine.turnPage client found f answer) (Routine.turnPage client' found g answer) := by
  cases answer with
  | error failure => exact next _
  | ok page =>
    simp only [Routine.turnPage]
    split
    · exact .listing next
    · exact next _

/-- **Routines that are alike go on alike**: they write the same lines and take as many handles. -/
theorem proceed (h : Alike R r s) (handle : Handle) :
    (r.proceed handle).1 = (s.proceed handle).1 ∧
      Alike R (r.proceed handle).2.1 (s.proceed handle).2.1 ∧
      (r.proceed handle).2.2 = (s.proceed handle).2.2 := by
  induction h generalizing handle with
  | done related => exact ⟨rfl, .done related, rfl⟩
  | note _ ih =>
    obtain ⟨lines, rest, next⟩ := ih handle
    exact ⟨congrArg _ lines, rest, next⟩
  | ask answered next => exact ⟨rfl, .ask answered next, rfl⟩
  | listing next => exact ⟨rfl, .listing next, rfl⟩
  | allocate _ ih => exact ih handle (handle + 1)
  | close _ ih => exact ih handle

/-- **Routines that are alike react alike.** -/
theorem react (h : Alike R r s) (reply : Reply) :
    Option.Rel (Alike R) (r.react reply) (s.react reply) := by
  cases h with
  | @ask q q' f g answered next =>
    have both := answered reply
    rw [Routine.react, Routine.react]
    cases answer : reply.answer? q <;> cases answer' : reply.answer? q' <;>
      simp only [answer, answer', Option.isSome] at both
    · exact .none
    · exact absurd both (by simp)
    · exact absurd both (by simp)
    · exact .some (next reply _ _ answer answer')
  | listing next =>
    rw [Routine.react, Routine.react]
    cases reply.page? with
    | none => exact .none
    | some answer => exact .some (.turnPage next answer)
  | done | note | allocate | close => exact .none

end Alike

end Routine

end ServiceAccess
