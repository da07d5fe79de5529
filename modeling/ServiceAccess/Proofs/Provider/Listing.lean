import Mathlib.Data.List.ReduceOption
import ServiceAccess.Proofs.Routine.Deeds
import ServiceAccess.Provider.Cloud.Basic

/-! # Listing the buckets of the cloud

A listing opens a client for itself, follows the pages to the last one and closes the client, also when a page
could not be had. Pages may be empty, and buckets on them nameless.

* **`Routine.does_thenClose_iff`**: a client is closed after all that is done with it.
* **`Cloud.follows_pages`**: every run of a listing, from its pages. -/

namespace ServiceAccess

/-- The named buckets of a page are those with a name that is not empty. -/
theorem BucketPage.named_eq (p : BucketPage) : p.named = p.names.reduceOption.filter (· ≠ "") := by
  rw [List.reduceOption, List.filter_filterMap]
  refine List.filterMap_congr fun name _ => ?_
  cases name <;> simp [Option.filter_some]

/-- The named buckets of several pages are those of all names together. -/
theorem BucketPage.flatMap_named (pages : List BucketPage) :
    pages.flatMap named = (pages.flatMap names).reduceOption.filter (· ≠ "") := by
  induction pages with
  | nil => rfl
  | cons page pages ih =>
    rw [List.flatMap_cons, List.flatMap_cons, List.reduceOption_append, List.filter_append, named_eq, ih]

/-- **A client is closed after all that is done with it**, and only then, whatever the result. -/
theorem Routine.does_thenClose_iff {α : Type} {r : Routine α} {client : CloudClient} {deeds : List Deed}
    {result : Except Failure α} :
    (r.thenClose client).Does deeds result ↔ ∃ first, r.Does first result ∧ deeds = first ++ [.closed client] := by
  simp only [thenClose, does_attempt_iff, does_close_iff, does_done_iff]
  constructor
  · rintro ⟨first, x, _, run, ⟨_, ⟨rfl, rfl⟩, rfl⟩, rfl⟩
    exact ⟨first, run, rfl⟩
  · rintro ⟨first, run, rfl⟩
    exact ⟨first, result, _, run, ⟨[], ⟨rfl, rfl⟩, rfl⟩, rfl⟩

namespace Cloud

/-- **A listing follows its pages**, each of which is asked for once: the first without a token, each later one with the
token of the page before, which is not empty. The last answer is a page that leads on no further, or a failure. The
result are the names that are not empty, of all pages in their order, or the same failure. There is one client, and it
is closed once, after the last request. -/
theorem follows_pages (session : CloudSession) (deeds : List Deed) (result : Except Failure (List String)) :
    (Interface.direct.buckets session).Does deeds result ↔
      ∃ (handle : Handle) (pages : List BucketPage) (final : Except Failure BucketPage),
        (∀ page ∈ pages, page.LeadsOn) ∧ (∀ page, final = .ok page → ¬ page.LeadsOn) ∧
        deeds = [.took handle] ++ requests ⟨handle, .storage, session⟩ none (pages.map .ok ++ [final])
          ++ [.closed ⟨handle, .storage, session⟩] ∧
        result = final.map fun last => ((pages ++ [last]).flatMap BucketPage.names).reduceOption.filter (· ≠ "") := by
  simp only [Interface.direct, Routine.does_allocate_iff, Routine.does_thenClose_iff, Routine.does_listing_iff,
    Routine.does_done_iff, List.nil_append, BucketPage.flatMap_named]
  constructor
  · rintro ⟨handle, _, ⟨_, ⟨pages, final, _, lead, last, ⟨rfl, rfl⟩, rfl⟩, rfl⟩, rfl⟩
    exact ⟨handle, pages, final, lead, last, by simp, rfl⟩
  · rintro ⟨handle, pages, final, lead, last, rfl, rfl⟩
    exact ⟨handle, _, ⟨_, ⟨pages, final, [], lead, last, ⟨rfl, rfl⟩, rfl⟩, rfl⟩, by simp⟩

end Cloud

end ServiceAccess
