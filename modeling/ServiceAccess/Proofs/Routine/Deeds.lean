import ServiceAccess.Routine

/-! # What routines do

A run of a routine is all that it does until it ends: lines that it writes, questions that it asks, pages of listings
that it asks for, handles that it takes and clients that it closes, in this order. The surroundings decide about
answers and handles, so that a routine has as many runs as there are answers; it is without end while every page of
a listing has a token.

* **`Routine.Does`**: a run of a routine, and its result.
* **`Routine.does_attempt_iff`**, **`Routine.does_bind_iff`**: what routines do one after the other.
* **`Routine.does_listing_iff`**: what a listing does: it asks for page after page, each with the token of the page
  before. -/

namespace ServiceAccess

/-- What a routine does. -/
inductive Deed where
  /-- A line is written. -/
  | wrote (line : LogLine)
  /-- A question is asked, and answered. -/
  | asked (query : Query) (answer : Except Failure query.Answer)
  /-- A page of a listing is asked for, with a token if there is one. -/
  | turned (client : CloudClient) (token : Option String) (answer : Except Failure BucketPage)
  /-- A handle is taken for a new client. -/
  | took (handle : Handle)
  /-- A client is closed. -/
  | closed (client : CloudClient)

/-- A page that is followed by another one: it has a token, which is not empty. -/
def BucketPage.LeadsOn (p : BucketPage) : Prop := ∃ token, p.next = some token ∧ token ≠ ""

/-- **The requests for the pages of a listing**, one for each answer: each has the token of the page before. -/
def requests (client : CloudClient) : (token : Option String) → List (Except Failure BucketPage) → List Deed
  | _, [] => []
  | token, answer :: answers =>
    .turned client token answer :: requests client (answer.toOption.bind BucketPage.next) answers

namespace Routine

variable {α β : Type}

/-- **A run of a routine**: what it does, and its result. -/
inductive Does {α : Type} : Routine α → List Deed → Except Failure α → Prop
  /-- The routine has ended. -/
  | done (result : Except Failure α) : Does (.done result) [] result
  /-- A line is written. -/
  | note {level : Level} {message : String} {r : Routine α} {deeds : List Deed} {result : Except Failure α} :
      Does r deeds result → Does (.note level message r) (.wrote ⟨level, message⟩ :: deeds) result
  /-- A question is answered. -/
  | ask {query : Query} {next : Except Failure query.Answer → Routine α} {deeds : List Deed}
      {result : Except Failure α} (answer : Except Failure query.Answer) :
      Does (next answer) deeds result → Does (.ask query next) (.asked query answer :: deeds) result
  /-- A page of a listing comes in. -/
  | listing {client : CloudClient} {token : Option String} {found : List String}
      {next : Except Failure (List String) → Routine α} {deeds : List Deed} {result : Except Failure α}
      (answer : Except Failure BucketPage) : Does (turnPage client found next answer) deeds result →
      Does (.listing client token found next) (.turned client token answer :: deeds) result
  /-- A handle is taken. -/
  | allocate {next : Handle → Routine α} {deeds : List Deed} {result : Except Failure α} (handle : Handle) :
      Does (next handle) deeds result → Does (.allocate next) (.took handle :: deeds) result
  /-- A client is closed. -/
  | close {client : CloudClient} {r : Routine α} {deeds : List Deed} {result : Except Failure α} :
      Does r deeds result → Does (.close client r) (.closed client :: deeds) result

variable {deeds : List Deed} {result : Except Failure α}

/-! ## One thing after another -/

theorem does_done_iff {x : Except Failure α} : (done x).Does deeds result ↔ deeds = [] ∧ result = x := by
  constructor
  · rintro ⟨⟩
    exact ⟨rfl, rfl⟩
  · rintro ⟨rfl, rfl⟩
    exact .done _

theorem does_note_iff {level : Level} {message : String} {r : Routine α} : (note level message r).Does deeds result ↔
    ∃ later, r.Does later result ∧ deeds = .wrote ⟨level, message⟩ :: later := by
  constructor
  · rintro (_ | run)
    exact ⟨_, run, rfl⟩
  · rintro ⟨later, run, rfl⟩
    exact .note run

theorem does_ask_iff {query : Query} {next : Except Failure query.Answer → Routine α} :
    (ask query next).Does deeds result ↔
      ∃ answer later, (next answer).Does later result ∧ deeds = .asked query answer :: later := by
  constructor
  · rintro (_ | _ | ⟨answer, run⟩)
    exact ⟨answer, _, run, rfl⟩
  · rintro ⟨answer, later, run, rfl⟩
    exact .ask answer run

theorem does_allocate_iff {next : Handle → Routine α} : (allocate next).Does deeds result ↔
    ∃ handle later, (next handle).Does later result ∧ deeds = .took handle :: later := by
  constructor
  · rintro (_ | _ | _ | _ | ⟨handle, run⟩)
    exact ⟨handle, _, run, rfl⟩
  · rintro ⟨handle, later, run, rfl⟩
    exact .allocate handle run

theorem does_close_iff {client : CloudClient} {r : Routine α} : (close client r).Does deeds result ↔
    ∃ later, r.Does later result ∧ deeds = .closed client :: later := by
  constructor
  · rintro (_ | _ | _ | _ | _ | run)
    exact ⟨_, run, rfl⟩
  · rintro ⟨later, run, rfl⟩
    exact .close run

/-- Write lines, one after another, and go on. -/
def tell (lines : List LogLine) (r : Routine α) : Routine α :=
  lines.foldr (fun line later => .note line.level line.message later) r

theorem tell_append (lines lines' : List LogLine) (r : Routine α) :
    tell (lines ++ lines') r = tell lines (tell lines' r) :=
  List.foldr_append

/-- Lines are written before what follows. -/
theorem tell_bind (lines : List LogLine) (r : Routine α) (f : α → Routine β) :
    tell lines r >>= f = tell lines (r >>= f) := by
  induction lines with
  | nil => rfl
  | cons line lines ih => exact congrArg (note line.level line.message) ih

theorem does_tell_iff {lines : List LogLine} {r : Routine α} : (tell lines r).Does deeds result ↔
    ∃ later, r.Does later result ∧ deeds = lines.map .wrote ++ later := by
  induction lines generalizing deeds with
  | nil => simp [tell]
  | cons line lines ih =>
    rw [tell, List.foldr_cons, ← tell, does_note_iff]
    constructor
    · rintro ⟨_, told, rfl⟩
      obtain ⟨later, run, rfl⟩ := ih.1 told
      exact ⟨later, run, rfl⟩
    · rintro ⟨later, run, rfl⟩
      exact ⟨_, ih.2 ⟨later, run, rfl⟩, rfl⟩

/-! ## Listings -/

section
variable {client : CloudClient} {token : Option String} {found : List String}
  {next : Except Failure (List String) → Routine α} {page : BucketPage}

/-- After a page that leads on, the listing goes on with its token. -/
theorem turnPage_of_leadsOn (onward : page.LeadsOn) :
    turnPage client found next (.ok page) = .listing client page.next (found ++ page.named) next := by
  obtain ⟨token, held, some⟩ := onward
  simp [turnPage, held, Option.filter_some, some]

/-- Another page is the last one. -/
theorem turnPage_of_not_leadsOn (last : ¬ page.LeadsOn) :
    turnPage client found next (.ok page) = next (.ok (found ++ page.named)) := by
  have nowhere : (page.next.filter fun token => !token.isEmpty) = none := by
    refine Option.filter_eq_none_iff.2 fun token held some => last ⟨token, held, ?_⟩
    rintro rfl
    exact Bool.noConfusion some
  simp only [turnPage, nowhere]

/-- **What a listing does.** It asks for pages that lead on, and then for a last one or for one that fails; the
routine goes on with the named buckets of all pages, or with the failure. -/
theorem does_listing_iff : (listing client token found next).Does deeds result ↔
    ∃ (pages : List BucketPage) (final : Except Failure BucketPage) (later : List Deed),
      (∀ page ∈ pages, page.LeadsOn) ∧ (∀ page, final = .ok page → ¬ page.LeadsOn) ∧
      (next (final.map fun last => found ++ (pages ++ [last]).flatMap BucketPage.named)).Does later result ∧
      deeds = requests client token (pages.map .ok ++ [final]) ++ later := by
  constructor
  · intro run
    -- along the run, as long as it is in the listing
    generalize whole : listing client token found next = r at run
    induction run generalizing token found with
    | @listing _ _ _ _ later _ answer run ih =>
      obtain ⟨rfl, rfl, rfl, rfl⟩ := Routine.listing.inj whole
      cases answer with
      | error failure => exact ⟨[], .error failure, later, List.forall_mem_nil _, by simp, run, rfl⟩
      | ok page =>
        by_cases onward : page.LeadsOn
        · obtain ⟨pages, final, rest, lead, last, goesOn, rfl⟩ := ih (turnPage_of_leadsOn onward).symm
          refine ⟨page :: pages, final, rest, List.forall_mem_cons.2 ⟨onward, lead⟩, last, ?_, rfl⟩
          simpa only [List.cons_append, List.flatMap_cons, List.append_assoc] using goesOn
        · rw [turnPage_of_not_leadsOn onward] at run
          refine ⟨[], .ok page, later, List.forall_mem_nil _, by simpa using onward, ?_, rfl⟩
          simpa [Except.map] using run
    | _ => cases whole
  · rintro ⟨pages, final, later, lead, last, goesOn, rfl⟩
    induction pages generalizing token found with
    | nil =>
      refine .listing final ?_
      cases final with
      | error failure => exact goesOn
      | ok page =>
        rw [turnPage_of_not_leadsOn (last page rfl)]
        have ended : (next (.ok (found ++ page.named))).Does later result := by simpa [Except.map] using goesOn
        exact ended
    | cons page pages ih =>
      obtain ⟨onward, lead⟩ := List.forall_mem_cons.1 lead
      refine .listing (.ok page) ?_
      rw [turnPage_of_leadsOn onward]
      refine ih lead ?_
      simpa only [List.cons_append, List.flatMap_cons, List.append_assoc] using goesOn

end

/-! ## Routine after routine -/

/-- **What a routine does and what follows it** is a run of the one, and then a run of the other that begins with the
result. -/
theorem does_attempt_iff {r : Routine α} {f : Except Failure α → Routine β} {result : Except Failure β} :
    (r.attempt f).Does deeds result ↔
      ∃ first x later, r.Does first x ∧ (f x).Does later result ∧ deeds = first ++ later := by
  induction r generalizing deeds with
  | done x =>
    constructor
    · intro run
      exact ⟨[], x, deeds, .done x, run, rfl⟩
    · rintro ⟨_, _, later, ⟨⟩, goesOn, rfl⟩
      exact goesOn
  | note level message r ih =>
    simp only [attempt, does_note_iff, ih]
    constructor
    · rintro ⟨_, ⟨first, x, later, run, goesOn, rfl⟩, rfl⟩
      exact ⟨_, x, later, ⟨first, run, rfl⟩, goesOn, rfl⟩
    · rintro ⟨_, x, later, ⟨first, run, rfl⟩, goesOn, rfl⟩
      exact ⟨_, ⟨first, x, later, run, goesOn, rfl⟩, rfl⟩
  | ask query next ih =>
    simp only [attempt, does_ask_iff, ih]
    constructor
    · rintro ⟨answer, _, ⟨first, x, later, run, goesOn, rfl⟩, rfl⟩
      exact ⟨_, x, later, ⟨answer, first, run, rfl⟩, goesOn, rfl⟩
    · rintro ⟨_, x, later, ⟨answer, first, run, rfl⟩, goesOn, rfl⟩
      exact ⟨answer, _, ⟨first, x, later, run, goesOn, rfl⟩, rfl⟩
  | listing client token found next ih =>
    simp only [attempt, does_listing_iff, ih]
    constructor
    · rintro ⟨pages, final, _, lead, last, ⟨first, x, later, run, goesOn, rfl⟩, rfl⟩
      exact ⟨_, x, later, ⟨pages, final, first, lead, last, run, rfl⟩, goesOn, (List.append_assoc ..).symm⟩
    · rintro ⟨_, x, later, ⟨pages, final, first, lead, last, run, rfl⟩, goesOn, rfl⟩
      exact ⟨pages, final, _, lead, last, ⟨first, x, later, run, goesOn, rfl⟩, List.append_assoc ..⟩
  | allocate next ih =>
    simp only [attempt, does_allocate_iff, ih]
    constructor
    · rintro ⟨handle, _, ⟨first, x, later, run, goesOn, rfl⟩, rfl⟩
      exact ⟨_, x, later, ⟨handle, first, run, rfl⟩, goesOn, rfl⟩
    · rintro ⟨_, x, later, ⟨handle, first, run, rfl⟩, goesOn, rfl⟩
      exact ⟨handle, _, ⟨first, x, later, run, goesOn, rfl⟩, rfl⟩
  | close client r ih =>
    simp only [attempt, does_close_iff, ih]
    constructor
    · rintro ⟨_, ⟨first, x, later, run, goesOn, rfl⟩, rfl⟩
      exact ⟨_, x, later, ⟨first, run, rfl⟩, goesOn, rfl⟩
    · rintro ⟨_, x, later, ⟨first, run, rfl⟩, goesOn, rfl⟩
      exact ⟨_, ⟨first, x, later, run, goesOn, rfl⟩, rfl⟩

/-- What follows a routine may do nothing else, and make another result of the result. -/
theorem does_attempt_done_iff {r : Routine α} {f : Except Failure α → Routine β} {x : α → Except Failure β}
    {y : Failure → Except Failure β} (succeeded : ∀ a, f (.ok a) = .done (x a))
    (failed : ∀ e, f (.error e) = .done (y e)) {result : Except Failure β} : (r.attempt f).Does deeds result ↔
      (∃ a, r.Does deeds (.ok a) ∧ result = x a) ∨ ∃ e, r.Does deeds (.error e) ∧ result = y e := by
  rw [does_attempt_iff]
  constructor
  · rintro ⟨first, a | e, later, run, goesOn, rfl⟩
    · rw [failed, does_done_iff] at goesOn
      obtain ⟨rfl, rfl⟩ := goesOn
      exact .inr ⟨_, by rwa [List.append_nil], rfl⟩
    · rw [succeeded, does_done_iff] at goesOn
      obtain ⟨rfl, rfl⟩ := goesOn
      exact .inl ⟨_, by rwa [List.append_nil], rfl⟩
  · rintro (⟨a, run, rfl⟩ | ⟨e, run, rfl⟩)
    · exact ⟨deeds, .ok a, [], run, succeeded a ▸ .done _, (List.append_nil _).symm⟩
    · exact ⟨deeds, .error e, [], run, failed e ▸ .done _, (List.append_nil _).symm⟩

/-- After a failure nothing else is done. -/
theorem does_bind_iff {r : Routine α} {f : α → Routine β} {result : Except Failure β} :
    (r >>= f).Does deeds result ↔
      (∃ first a later, r.Does first (.ok a) ∧ (f a).Does later result ∧ deeds = first ++ later) ∨
      ∃ failure, r.Does deeds (.error failure) ∧ result = .error failure := by
  refine does_attempt_iff.trans ?_
  constructor
  · rintro ⟨first, x, later, run, goesOn, rfl⟩
    cases x with
    | ok a => exact .inl ⟨first, a, later, run, goesOn, rfl⟩
    | error failure =>
      obtain ⟨rfl, rfl⟩ := does_done_iff.1 goesOn
      exact .inr ⟨failure, by rwa [List.append_nil], rfl⟩
  · rintro (⟨first, a, later, run, goesOn, rfl⟩ | ⟨failure, run, rfl⟩)
    · exact ⟨first, .ok a, later, run, goesOn, rfl⟩
    · exact ⟨deeds, .error failure, [], run, .done _, (List.append_nil _).symm⟩

end Routine

end ServiceAccess
