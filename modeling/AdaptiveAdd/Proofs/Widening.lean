import AdaptiveAdd.Proofs.Ascent

/-!
# Widening in any order

A status is kept in one byte, and an update goes through the byte: it reads the
status, widens it, and writes the byte of the outcome (`Status.rewrite`), or
writes only if the status changes, as a site does (`Status.publish`).  Updates
may reach the byte in any order, and more than once.  This module proves that
none of this can be seen in the status.

* Through the byte.  Reading the byte after updates is updating the status that
  was read before them (`ofByte_foldl`).  This holds for every byte: one that no
  status has is read as a status all the same, and written back as the byte of
  that status.
* Which updates there are is all that matters.  The specialization after updates
  is a least upper bound and the flag a disjunction, so the order and the number
  of the updates are forgotten (`foldl_update_congr`), and more updates only lead
  upwards (`foldl_update_take_le`).
* At a site.  What `Site.widen` does to the byte of the site is what `publish`
  does to any byte (`Site.toByte_update`, `Site.toByte_foldl_update`).

`updates_in_any_order` puts the three together.
-/

namespace AdaptiveAdd

namespace Status

/-- What a status is asked to cover from now on. -/
structure Update where
  matched : Specialization
  /-- Whether the integer path is to be excluded. -/
  exclude : Bool

/-- The status after an update. -/
def update (s : Status) (u : Update) : Status :=
  s.widened u.matched u.exclude

/-! ## Through the byte -/

/-- The byte after an update that writes in any case. -/
def rewrite (byte : UInt8) (u : Update) : UInt8 :=
  ((ofByte byte).update u).toByte

/-- The byte after an update that writes only if the status changes. -/
def publish (byte : UInt8) (u : Update) : UInt8 :=
  let next := (ofByte byte).update u
  if next = ofByte byte then byte else next.toByte

theorem ofByte_rewrite (byte : UInt8) (u : Update) :
    ofByte (rewrite byte u) = (ofByte byte).update u :=
  ofByte_toByte _

theorem ofByte_publish (byte : UInt8) (u : Update) :
    ofByte (publish byte u) = (ofByte byte).update u := by
  unfold publish
  dsimp only
  split
  · rename_i hsame
    exact hsame.symm
  · exact ofByte_toByte _

/-- The byte of a status becomes the byte of the updated one, also where nothing is written. -/
theorem publish_toByte (s : Status) (u : Update) : publish s.toByte u = (s.update u).toByte := by
  unfold publish
  rw [ofByte_toByte]
  dsimp only
  split
  · rename_i hsame
    rw [hsame]
  · rfl

/-- Updates of the byte are updates of the status that it stands for. -/
theorem ofByte_foldl {write : UInt8 → Update → UInt8}
    (hwrite : ∀ byte u, ofByte (write byte u) = (ofByte byte).update u)
    (byte : UInt8) (updates : List Update) :
    ofByte (updates.foldl write byte) = updates.foldl update (ofByte byte) :=
  (List.foldl_hom ofByte fun byte u => (hwrite byte u).symm).symm

/-- The high bit of a byte is the flag. -/
theorem integerExcluded_ofByte {byte : UInt8} :
    (ofByte byte).integerExcluded = true ↔ byte &&& 0x80 ≠ 0 :=
  bne_iff_ne

/-! ## Which updates there are -/

variable {s : Status}

theorem specialization_foldl_update_le_iff (updates : List Update) {bound : Specialization} :
    (updates.foldl update s).specialization ≤ bound ↔
      s.specialization ≤ bound ∧ ∀ u ∈ updates, u.matched ≤ bound :=
  specialization_foldl_widened_le_iff Update.matched Update.exclude s updates

theorem integerExcluded_foldl_update (updates : List Update) :
    (updates.foldl update s).integerExcluded = true ↔
      s.integerExcluded = true ∨ ∃ u ∈ updates, u.exclude = true :=
  integerExcluded_foldl_widened Update.matched Update.exclude s updates

/-- Lists of the same updates lead to the same status. -/
theorem foldl_update_congr {updates others : List Update} (h : ∀ u, u ∈ others ↔ u ∈ updates) :
    others.foldl update s = updates.foldl update s := by
  apply eq_of_le_iff
  · intro bound
    simp only [specialization_foldl_update_le_iff, h]
  · simp only [integerExcluded_foldl_update, h]

theorem le_foldl_update (s : Status) (updates : List Update) : s ≤ updates.foldl update s := by
  have hcover := (specialization_foldl_update_le_iff updates (s := s)).1 (Specialization.le_refl _)
  exact ⟨hcover.1, fun hflag => (integerExcluded_foldl_update updates).2 (.inl hflag)⟩

/-- After more of the updates, the status is at least what it was. -/
theorem foldl_update_take_le (s : Status) (updates : List Update) {i j : Nat} (hij : i ≤ j) :
    (updates.take i).foldl update s ≤ (updates.take j).foldl update s := by
  have hsplit : updates.take j = updates.take i ++ (updates.take j).drop i := by
    have htake : (updates.take j).take i = updates.take i := by
      rw [List.take_take, Nat.min_eq_left hij]
    rw [← htake, List.take_append_drop]
  rw [hsplit, List.foldl_append]
  exact le_foldl_update _ _

end Status

/-! ## At a site -/

namespace Site

/-- The site after an update of its status. -/
def update (s : Site) (u : Status.Update) : Site :=
  (s.widen u.matched u.exclude).1

/-- A site updates its byte as `publish` does: without a change, nothing is written. -/
theorem toByte_update (s : Site) (u : Status.Update) :
    (s.update u).status.toByte = Status.publish s.status.toByte u := by
  rw [Status.publish_toByte]
  exact congrArg Status.toByte (status_widen s u.matched u.exclude)

theorem toByte_foldl_update (s : Site) (updates : List Status.Update) :
    (updates.foldl update s).status.toByte = updates.foldl Status.publish s.status.toByte :=
  (List.foldl_hom (fun s : Site => s.status.toByte) fun s u => (toByte_update s u).symm).symm

end Site

namespace Status

/-- Updates of a status that is kept in a byte, from any byte on.

The status that is read after them is the one that was read before, updated, whether the byte is
written at every update or only where the status changes.  Its specialization is the least upper
bound of the one before and of all that were matched, in an order that is antisymmetric, so that no
other specialization is; and its flag is set when it was before or an update excludes.  Any other
list of the same updates, in any order and number, leads to the same status; and on the way the
status only goes up.  A site that is updated keeps its byte in this way. -/
theorem updates_in_any_order (byte : UInt8) (updates : List Update) :
    let status := updates.foldl update (ofByte byte)
    ofByte (updates.foldl rewrite byte) = status ∧
    ofByte (updates.foldl publish byte) = status ∧
    (ofByte byte).specialization ≤ status.specialization ∧
    (∀ u ∈ updates, u.matched ≤ status.specialization) ∧
    (∀ bound, (ofByte byte).specialization ≤ bound → (∀ u ∈ updates, u.matched ≤ bound) →
      status.specialization ≤ bound) ∧
    (∀ a b : Specialization, a ≤ b → b ≤ a → a = b) ∧
    (status.integerExcluded = true ↔ byte &&& 0x80 ≠ 0 ∨ ∃ u ∈ updates, u.exclude = true) ∧
    (∀ others : List Update, (∀ u, u ∈ others ↔ u ∈ updates) →
      ofByte (others.foldl rewrite byte) = status) ∧
    (∀ i j, i ≤ j →
      ofByte ((updates.take i).foldl rewrite byte) ≤
        ofByte ((updates.take j).foldl rewrite byte)) ∧
    ∀ site : Site,
      (updates.foldl Site.update site).status.toByte =
        updates.foldl publish site.status.toByte := by
  intro status
  have hcover := (specialization_foldl_update_le_iff (s := ofByte byte) updates).1
    (Specialization.le_refl _)
  refine ⟨ofByte_foldl ofByte_rewrite byte updates, ofByte_foldl ofByte_publish byte updates,
    hcover.1, hcover.2, ?_, fun _ _ => Specialization.le_antisymm, ?_, ?_, ?_,
    fun site => Site.toByte_foldl_update site updates⟩
  · intro bound hbefore hmatched
    exact (specialization_foldl_update_le_iff updates).2 ⟨hbefore, hmatched⟩
  · rw [← integerExcluded_ofByte]
    exact integerExcluded_foldl_update updates
  · intro others h
    rw [ofByte_foldl ofByte_rewrite]
    exact foldl_update_congr h
  · intro i j hij
    rw [ofByte_foldl ofByte_rewrite, ofByte_foldl ofByte_rewrite]
    exact foldl_update_take_le _ _ hij

/-- A byte that no status has is read as generic here, and the first update that is written leaves
the byte of a status. -/
example : rewrite 0xff { matched := .integer, exclude := false } = 0x84 := by
  decide

end Status

end AdaptiveAdd
