import AdaptiveAdd.Value.Equiv
import AdaptiveAdd.Value.Render

/-!
# Stored values

The payload of an unbounded integer, a text, a function or an object lives in
storage that copies of the value share.  A `Handle` refers to a cell of storage,
and a `Stored` value has handles where a value has payloads.  A copy keeps the
cells; a value made anew has cells of its own.  Nothing forbids that a text and a
function share their string.

Comparison may stop at the cells: `Handle.equal` answers yes for two handles of
one cell without looking inside.  What a cell holds never changes, so the cells
decide nothing that the values do not (`equiv_eq`, `same_iff`).
-/

namespace AdaptiveAdd

/-- The payload of a text or an unbounded integer, as the language writes it. -/
def Value.payload? (v : Value) : Option String :=
  match v with
  | .text _ | .big _ => some v.render
  | .int _ | .foreign _ => none

/-- The payload of a text or an unbounded integer, quoted or marked as what it is. -/
def Value.payloadDebug? : Value → Option String
  | .text s => some (Text.quote s)
  | .big n => some (Integer.debug n)
  | .int _ | .foreign _ => none

/-- What the cells of storage hold. -/
structure Memory where
  integers : Nat → Int
  texts : Nat → String

/-- A reference to one of `cells`. -/
structure Handle {α : Type} (cells : Nat → α) where
  cell : Nat

namespace Handle

variable {α : Type} {cells : Nat → α}

def content (h : Handle cells) : α :=
  cells h.cell

/-- Whether both refer to one cell. -/
def shares (h k : Handle cells) : Bool :=
  h.cell == k.cell

/-- Equality of what two handles refer to, decided by the cells where they are the same. -/
def equal [BEq α] (h k : Handle cells) : Bool :=
  h.shares k || h.content == k.content

theorem content_eq_of_shares {h k : Handle cells} (hshares : h.shares k = true) :
    h.content = k.content :=
  congrArg cells (beq_iff_eq.1 hshares)

theorem equal_eq [BEq α] [ReflBEq α] (h k : Handle cells) :
    h.equal k = (h.content == k.content) := by
  cases hshares : h.shares k with
  | true => rw [equal, hshares, content_eq_of_shares hshares, beq_self_eq_true, Bool.or_true]
  | false => rw [equal, hshares, Bool.false_or]

end Handle

variable {m : Memory}

/-- A value that is neither a number nor a text, with its strings in `m`. -/
inductive StoredForeign (m : Memory) where
  | bool (b : Bool)
  | null
  | function (name : Handle m.texts)
  | object (typeName rendering : Handle m.texts)

namespace StoredForeign

def value : StoredForeign m → Foreign
  | .bool b => .bool b
  | .null => .null
  | .function name => .function name.content
  | .object typeName rendering => .object typeName.content rendering.content

def equal : StoredForeign m → StoredForeign m → Bool
  | .bool a, .bool b => a == b
  | .null, .null => true
  | .function a, .function b => a.equal b
  | .object a r, .object b s => a.equal b && r.equal s
  | _, _ => false

theorem equal_eq (f g : StoredForeign m) : f.equal g = (f.value == g.value) := by
  cases f <;> cases g <;> simp [equal, value, Handle.equal_eq, Bool.beq_eq_decide_eq]

end StoredForeign

/-- A value with its payload in `m`. -/
inductive Stored (m : Memory) where
  | int (n : Int64)
  | big (n : Handle m.integers)
  | text (s : Handle m.texts)
  | foreign (f : StoredForeign m)

namespace Stored

def value : Stored m → Value
  | .int n => .int n
  | .big n => .big n.content
  | .text s => .text s.content
  | .foreign f => .foreign f.value

/-- Whether two values of one kind with a payload share it.  For values of other kinds the question
does not arise, and objects have two payloads. -/
def sharesPayload? : Stored m → Stored m → Option Bool
  | .text a, .text b => some (a.shares b)
  | .big a, .big b => some (a.shares b)
  | .foreign (.function a), .foreign (.function b) => some (a.shares b)
  | _, _ => none

/-- Equality as programs see it. -/
def equiv : Stored m → Stored m → Bool
  | .int a, .int b => a == b
  | .big a, .big b => a.equal b
  | .int a, .big b | .big b, .int a => Integer.equalsWord b.content a
  | .text a, .text b => a.equal b
  | .foreign a, .foreign b => a.equal b
  | _, _ => false

/-- Sameness of representation. -/
def same : Stored m → Stored m → Bool
  | .int a, .int b => a == b
  | .big a, .big b => a.equal b
  | .text a, .text b => a.equal b
  | .foreign a, .foreign b => a.equal b
  | _, _ => false

theorem equiv_eq (a b : Stored m) : a.equiv b = a.value.equiv b.value := by
  cases a <;> cases b <;>
    simp only [equiv, value, Value.equiv, Handle.equal_eq, StoredForeign.equal_eq]

theorem same_iff {a b : Stored m} : a.same b = true ↔ a.value = b.value := by
  cases a <;> cases b <;>
    simp [same, value, Handle.equal_eq, StoredForeign.equal_eq]

/-- A value to compare with another one: a copy of it, or a value made anew. -/
inductive Peer where
  | copy
  | fresh (v : Value)

/-- The value of a peer of `v`. -/
def Peer.value (v : Value) : Peer → Value
  | .copy => v
  | .fresh w => w

end Stored

/-- The strings that a value keeps in storage. -/
def Value.strings : Value → List String
  | .text s => [s]
  | .foreign (.function name) => [name]
  | .foreign (.object typeName rendering) => [typeName, rendering]
  | .int _ | .big _ | .foreign (.bool _) | .foreign .null => []

/-- A memory for `vs`, each with cells of its own: value number `i` has its integer in cell `i`, and
its strings from cell `2 * i` on. -/
def Memory.holding (vs : List Value) : Memory where
  integers i := (vs[i]?.bind Value.asBig?).getD 0
  texts i := (vs[i / 2]?.bind (·.strings[i % 2]?)).getD ""

/-- The value in a memory that holds it as number `i`. -/
def Value.storedAt (m : Memory) (i : Nat) : Value → Stored m
  | .int n => .int n
  | .big _ => .big ⟨i⟩
  | .text _ => .text ⟨2 * i⟩
  | .foreign (.bool b) => .foreign (.bool b)
  | .foreign .null => .foreign .null
  | .foreign (.function _) => .foreign (.function ⟨2 * i⟩)
  | .foreign (.object _ _) => .foreign (.object ⟨2 * i⟩ ⟨2 * i + 1⟩)

namespace Stored

theorem value_storedAt {vs : List Value} {v : Value} {i : Nat} (h : vs[i]? = some v) :
    (v.storedAt (Memory.holding vs) i).value = v := by
  have hodd : (2 * i + 1) / 2 = i := by omega
  rcases v with n | n | s | _ | _ | name | ⟨typeName, rendering⟩ <;>
    simp [Value.storedAt, value, StoredForeign.value, Handle.content, Memory.holding,
      Value.strings, Value.asBig?, hodd, h]

/-- The memory for comparing `v` with its peers.  The cells of a copy stay unused. -/
def Peer.memory (v : Value) (ps : List Peer) : Memory :=
  .holding (v :: ps.map (Peer.value v))

/-- The peers of `v` in storage, beside `v` itself. -/
def comparison (v : Value) (ps : List Peer) :
    Stored (Peer.memory v ps) × List (Stored (Peer.memory v ps)) :=
  (v.storedAt _ 0, ps.mapIdx fun i p =>
    match p with
    | .copy => v.storedAt _ 0
    | .fresh w => w.storedAt _ (i + 1))

/-- Storage keeps the values that are compared. -/
theorem values_comparison (v : Value) (ps : List Peer) :
    (comparison v ps).1.value = v ∧
      (comparison v ps).2.map value = ps.map (Peer.value v) := by
  have hself : (v.storedAt (Peer.memory v ps) 0).value = v := value_storedAt rfl
  refine ⟨hself, List.ext_getElem? fun i => ?_⟩
  rw [comparison, List.getElem?_map, List.getElem?_mapIdx, List.getElem?_map]
  cases hpeer : ps[i]? with
  | none => rfl
  | some p =>
    cases p with
    | copy => exact congrArg some hself
    | fresh w =>
      refine congrArg some (value_storedAt ?_)
      rw [List.getElem?_cons_succ, List.getElem?_map, hpeer]
      rfl

end Stored

end AdaptiveAdd
