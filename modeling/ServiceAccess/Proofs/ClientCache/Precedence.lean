import ServiceAccess.Proofs.ClientCache.Run

/-! # Newer clients stay

A creation is meant never to put its client over that of a later creation. It looks at the stored client
when its create call ends; but where it has to release that client first, it stores its own one
afterwards without another look.

* **`StoredFinished`**: stored clients come from creations that are over. Every run keeps this
  (`storedFinished_after`).
* **`NewerStays`**: what a cache is meant to do in a run.
* **`Reverts`**: an input ends the release that a creation waits for in order to replace a client, while
  the client of a later creation is stored under its key.
* **`newerStays_iff`**: newer clients stay in a run exactly when no input of it reverts. Two releases of
  one client that end in the wrong order make one (`not_newerStays_crossing`). -/

namespace ServiceAccess.ClientCache

variable {ρ κ ε : Type}

/-! ## Stored clients -/

/-- **A stored client comes from a creation for its key that is over.** The creation goes once its callers
are answered. -/
def StoredFinished (c : ClientCache ρ κ ε) : Prop :=
  ∀ key e cr, c.entries.get? key = some e → c.creations.get? e.generation = some cr →
    cr.key = key ∧ cr.fingerprint = e.fingerprint ∧ cr.stage = .finished (.ok e.client)

/-- The empty cache stores nothing. -/
theorem storedFinished_empty (disposes : Bool) :
    StoredFinished (.empty disposes : ClientCache ρ κ ε) := by
  simp [StoredFinished, empty]

/-! ## Reverting -/

/-- **An action reverts to an older client**: it ends the release that a creation waits for in order to
replace a client, while the client of a later creation is stored under its key. -/
def ActionReverts (c : ClientCache ρ κ ε) (a : Action ρ κ ε) : Prop :=
  ∃ r g x cr e, a = .released r (.ok ()) ∧ c.owners.get? r = some (.creation g) ∧
    c.creations.get? g = some cr ∧ cr.stage = .replacing x ∧
    c.entries.get? cr.key = some e ∧ g < e.generation

/-- **An input reverts to an older client.** Without a dispose hook the release ends by a
continuation. -/
def Reverts (c : ClientCache ρ κ ε) (i : Input ρ κ ε) : Prop := c.ActionReverts (c.occasion i).2

variable [DecidableEq κ]
variable {c c' : ClientCache ρ κ ε} {a : Action ρ κ ε} {es : List (Effect ρ κ ε)}

/-- Every move keeps stored clients with creations that are over. -/
theorem Move.storedFinished (m : Move c a c' es) (sound : c.Sound) (h : c.StoredFinished) :
    c'.StoredFinished := by
  intro key e cr' stored under'
  rcases m.entry_cases stored with before | ⟨cr, -, -, hkey, hfp, -, ended⟩
  · rcases m.creation_cases under' with ⟨cr, under, -⟩ | ⟨new, -⟩
    · obtain ⟨rfl, fp, stage⟩ := h key e cr before under
      obtain ⟨same, same', stage'⟩ := m.finished_stays sound under stage under'
      exact ⟨same, same'.trans fp, stage'⟩
    · have := sound.entry_le key e before
      omega
  · obtain rfl := Option.some.inj (ended.symm.trans under')
    exact ⟨hkey, hfp, rfl⟩

/-- Every run of the empty cache keeps stored clients with creations that are over. -/
theorem storedFinished_after (disposes : Bool) (inputs : List (Input ρ κ ε)) :
    ((empty disposes).after inputs).StoredFinished :=
  after_keeps (P := StoredFinished) (fun _ _ h => h)
    (fun _ _ _ _ sound m h => m.storedFinished sound h) (sound_empty disposes)
    (storedFinished_empty disposes) inputs

/-! ## Replaced clients -/

/-- **Newer clients stay in a run.** Whenever the client stored under a key gives way to another one, this
comes from a later creation. -/
def NewerStays (c : ClientCache ρ κ ε) (inputs : List (Input ρ κ ε)) : Prop :=
  ∀ l i, l ++ [i] <+: inputs → ∀ key e e', (c.after l).entries.get? key = some e →
    (c.after (l ++ [i])).entries.get? key = some e' → e' = e ∨ e.generation < e'.generation

/-- Where a move does not revert, the client that it puts in place of another one is newer. -/
theorem Move.newer (m : Move c a c' es) (h : c.StoredFinished) (keeps : ¬ c.ActionReverts a)
    {key : String} {e e' : Entry κ} (stored : c.entries.get? key = some e)
    (stored' : c'.entries.get? key = some e') : e' = e ∨ e.generation < e'.generation := by
  cases m with
  | restarted =>
    rw [Table.get?_erase] at stored'
    split at stored'
    · simp at stored'
    · exact .inl (Option.some.inj (stored'.symm.trans stored))
  | evicted | swept =>
    rw [Table.get?_filter, Option.filter_eq_some_iff] at stored'
    exact .inl (Option.some.inj (stored'.1.symm.trans stored))
  | stored under stage absent =>
    rw [Table.get?_insert] at stored'
    split at stored'
    · subst key
      simp [absent] at stored
    · exact .inl (Option.some.inj (stored'.symm.trans stored))
  | @replaced r g x cr owned under stage =>
    rw [Table.get?_insert] at stored'
    split at stored'
    · subst key
      obtain rfl := Option.some.inj stored'
      -- a creation that is not over has stored nothing yet, so the generations differ
      have other : e.generation ≠ g := by
        rintro rfl
        have ended := (h cr.key e cr stored under).2.2
        simp [stage] at ended
      have older : e.generation ≤ g :=
        Nat.le_of_not_lt fun newer => keeps ⟨r, g, x, cr, e, rfl, owned, under, stage, stored, newer⟩
      exact .inr (Nat.lt_of_le_of_ne older other)
    · exact .inl (Option.some.inj (stored'.symm.trans stored))
  | _ => exact .inl (Option.some.inj (stored'.symm.trans stored))

/-- A move that reverts puts the client of an earlier creation in place of that of a later one. -/
theorem Move.reverted (m : Move c a c' es) (reverts : c.ActionReverts a) :
    ∃ key e e', c.entries.get? key = some e ∧ c'.entries.get? key = some e' ∧
      e'.generation < e.generation := by
  obtain ⟨r, g, x, cr, e, rfl, owned, under, stage, stored, newer⟩ := reverts
  cases m with
  | replaced owned₀ under₀ stage₀ =>
    obtain rfl := Owner.creation.inj (Option.some.inj (owned.symm.trans owned₀))
    obtain rfl := Option.some.inj (under.symm.trans under₀)
    exact ⟨cr.key, e, _, stored, Table.get?_insert_self .., newer⟩
  | connected owned₀ under₀ stage₀ =>
    obtain rfl := Owner.creation.inj (Option.some.inj (owned.symm.trans owned₀))
    obtain rfl := Option.some.inj (under.symm.trans under₀)
    simp [stage] at stage₀
  | noted owned₀ | forgotten owned₀ => simp [owned] at owned₀
  | idle nothing => simp [owned] at nothing

/-- **Newer clients stay, exactly.** They do in a run exactly when no input of it reverts to an older
client. -/
theorem newerStays_iff (disposes : Bool) (inputs : List (Input ρ κ ε)) :
    NewerStays (.empty disposes) inputs ↔
      ∀ l i, l ++ [i] <+: inputs → ¬ ((empty disposes).after l).Reverts i := by
  have sound := sound_after (ρ := ρ) (κ := κ) (ε := ε) disposes
  constructor
  · intro newer l i before reverts
    obtain ⟨jobs, move⟩ := exists_move (sound l) i
    obtain ⟨key, e, e', stored, stored', older⟩ := move.reverted reverts
    rw [← after_concat] at stored'
    rcases newer l i before key e e' stored stored' with rfl | later <;> omega
  · intro keeps l i before key e e' stored stored'
    obtain ⟨jobs, move⟩ := exists_move (sound l) i
    rw [after_concat] at stored'
    exact move.newer (storedFinished_after disposes l) (keeps l i before) stored stored'

/-- Three creations for one key overlap. The second and the third one find the client of the first one
stored and release it, and the later one of the two releases ends first. -/
def crossing : List (Input Unit Nat Unit) :=
  [.acquire "key" "a" (), .acquire "key" "b" (), .acquire "key" "c" (), .created 1 (.ok 10),
    .created 2 (.ok 20), .created 3 (.ok 30), .released 1 (.ok ())]

/-- When the other release ends as well, the client of the third creation gives way to that of the second
one. -/
theorem not_newerStays_crossing :
    ¬ NewerStays (.empty true : ClientCache Unit Nat Unit) (crossing ++ [.released 0 (.ok ())]) := by
  intro newer
  have third : ((empty true).after crossing).entries.get? "key" = some ⟨30, "c", 3⟩ := rfl
  have second : ((empty true).after (crossing ++ [.released 0 (.ok ())])).entries.get? "key"
      = some ⟨20, "b", 2⟩ := rfl
  rcases newer crossing _ (List.prefix_refl _) "key" _ _ third second with same | later
  · simp at same
  · simp at later

end ServiceAccess.ClientCache
