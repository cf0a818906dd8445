import RadioControl.Strtod
import Mathlib.Data.List.Forall2

/-! # yaml-cpp, as the configuration loaders use it

A loaded document is a tree of nodes (`Yaml.Node`): the zombie node that
`operator[]` returns for a missing key, or a defined node, marked with the line
and column where it starts in the file.  The loaders use `operator[]` on a const
node, `operator bool`, `IsMap`, `IsSequence`, iteration and `as<T>()`.  The
`what()` of the exceptions these throw is the message after the position of the
node it was thrown at, and the message alone for `InvalidNode`, whose mark is
null (`Yaml.buildWhat`).  The conversions `convert<T>::decode` other than to
`std::string` are a parameter; each reads the text of a scalar and fails on
every other node (`Yaml.Decoders`).

Apart from the `what()` of an exception, nothing a loader reads depends on the
marks.  `Node.erase` moves every mark to the start of the file, and what is
read through it is read the same way from the node itself: a key's value
(`get_of_erase`), whether a node is defined, a map or a sequence, its values
and items, and every conversion (`as_of_erase`).
-/
namespace RadioControl

theorem bind_eq_ok {ε α β : Type} {x : Except ε α} {g : α → Except ε β} {b : β} :
    x >>= g = .ok b ↔ ∃ a, x = .ok a ∧ g a = .ok b := by
  cases x <;> simp [bind, Except.bind]

/-- A `for` loop that stops at the first exception returns a list exactly when
each element gave the value at its position. -/
theorem mapM_eq_ok {α β ε : Type} {f : α → Except ε β} (l : List α) (ys : List β) :
    l.mapM f = .ok ys ↔ List.Forall₂ (fun x y => f x = .ok y) l ys := by
  rw [← List.mapM'_eq_mapM]
  induction l generalizing ys with
  | nil => cases ys <;> simp [pure, Except.pure]
  | cons x l ih => cases ys <;> simp [bind_eq_ok, ih, pure, Except.pure]

namespace Yaml

/-- Where a node starts in the file, as yaml-cpp's `Mark` counts it: the line
and the column, both from 0. -/
structure Mark where
  line : Nat
  column : Nat
  deriving DecidableEq, Repr

/-- A node as yaml-cpp presents it: the zombie node that `operator[]` returns
for a missing key, remembering that key, or a defined node and its mark. -/
inductive Node
  | zombie (key : String)
  | null (mark : Mark)
  | scalar (mark : Mark) (text : String)
  | sequence (mark : Mark) (items : List Node)
  | map (mark : Mark) (entries : List (Node × Node))

/-- `Exception::build_what`: the message, after the line and the column of the
mark counted from 1, unless the mark is null. -/
def buildWhat (mark : Option Mark) (msg : String) : String :=
  match mark with
  | none => msg
  | some m =>
    "yaml-cpp: error at line " ++ toString (m.line + 1) ++ ", column " ++ toString (m.column + 1) ++
      ": " ++ msg

/-- `InvalidNode`: a zombie node was used.  Its mark is null. -/
def invalidNode (key : String) : Exception :=
  ⟨.yaml, buildWhat none ("invalid node; first invalid key: \"" ++ key ++ "\"")⟩

/-- `BadSubscript`: `operator[]` on the scalar at `mark`. -/
def badSubscript (mark : Mark) (key : String) : Exception :=
  ⟨.yaml, buildWhat (some mark) ("operator[] call on a scalar (key: \"" ++ key ++ "\")")⟩

/-- `TypedBadConversion`: `as<T>()` could not decode the node whose `Mark()` is
`mark`. -/
def badConversion (mark : Option Mark) : Exception := ⟨.yaml, buildWhat mark "bad conversion"⟩

namespace Node

/-- `Mark()` of a defined node. -/
def mark? : Node → Option Mark
  | .zombie _ => none
  | .null m | .scalar m _ | .sequence m _ | .map m _ => some m

/-- Whether a map key is the scalar `key`. -/
def isKey (key : String) : Node → Bool
  | .scalar _ text => text == key
  | _ => false

/-- `explicit operator bool`: the node is defined. -/
def isDefined : Node → Bool
  | .zombie _ => false
  | _ => true

def isMap : Node → Bool
  | .map _ _ => true
  | _ => false

def isSequence : Node → Bool
  | .sequence _ _ => true
  | _ => false

/-- `node[key]` on a const node: the value of the first entry of a map whose key
is `key`, or a zombie; `BadSubscript` on a scalar, `InvalidNode` on a
zombie. -/
def get (n : Node) (key : String) : Except Exception Node :=
  match n with
  | .zombie k => .error (invalidNode k)
  | .scalar m _ => .error (badSubscript m key)
  | .map _ entries => .ok (((entries.find? fun e => e.1.isKey key).map Prod.snd).getD (.zombie key))
  | _ => .ok (.zombie key)

/-- The values a `for` loop over a map visits, in order. -/
def values : Node → List Node
  | .map _ entries => entries.map Prod.snd
  | _ => []

/-- The items a `for` loop over a sequence visits, in order. -/
def items : Node → List Node
  | .sequence _ items => items
  | _ => []

/-- `as<T>()` with the decoder `convert<T>::decode`: `InvalidNode` on a zombie,
`TypedBadConversion` at the node's mark when the decoder fails. -/
def as {α : Type} (decode : Node → Option α) : Node → Except Exception α
  | .zombie key => .error (invalidNode key)
  | n => match decode n with
    | some v => .ok v
    | none => .error (badConversion n.mark?)

end Node

/-- How `as<std::string>()` decodes a defined node: a scalar's text, and
`"null"` for a null node. -/
def decodeString : Node → Option String
  | .null _ => some "null"
  | .scalar _ text => some text
  | _ => none

/-- `convert<T>::decode` for a type read from the text of a scalar, failing on
every other node. -/
def decodeScalar {α : Type} (decode : String → Option α) : Node → Option α
  | .scalar _ text => decode text
  | _ => none

/-- yaml-cpp's `convert<T>::decode` for the other types the loader reads, on
the text of a scalar. -/
structure Decoders where
  bool : String → Option Bool
  uint16 : String → Option UInt16
  size : String → Option Nat
  int : String → Option Int
  double : String → Option Double

/-! ## Where the nodes stand -/

namespace Node

/-- The mark of every node `erase` returns: the start of the file. -/
def origin : Mark := ⟨0, 0⟩

mutual

/-- The node with every mark moved to the start of the file: what it holds,
wherever it stands. -/
def erase : Node → Node
  | .zombie key => .zombie key
  | .null _ => .null origin
  | .scalar _ text => .scalar origin text
  | .sequence _ items => .sequence origin (eraseAll items)
  | .map _ entries => .map origin (eraseEntries entries)

/-- `erase` on every item. -/
def eraseAll : List Node → List Node
  | [] => []
  | n :: ns => n.erase :: eraseAll ns

/-- `erase` on every key and value. -/
def eraseEntries : List (Node × Node) → List (Node × Node)
  | [] => []
  | (k, v) :: es => (k.erase, v.erase) :: eraseEntries es

end

theorem eraseAll_eq (ns : List Node) : eraseAll ns = ns.map erase := by
  induction ns with
  | nil => rfl
  | cons n ns ih => rw [eraseAll, ih, List.map_cons]

theorem eraseEntries_eq (es : List (Node × Node)) :
    eraseEntries es = es.map fun e => (e.1.erase, e.2.erase) := by
  induction es with
  | nil => rfl
  | cons e es ih => rw [eraseEntries, ih, List.map_cons]

@[simp] theorem isDefined_erase (n : Node) : n.erase.isDefined = n.isDefined := by
  cases n <;> rfl

@[simp] theorem isMap_erase (n : Node) : n.erase.isMap = n.isMap := by
  cases n <;> rfl

@[simp] theorem isSequence_erase (n : Node) : n.erase.isSequence = n.isSequence := by
  cases n <;> rfl

@[simp] theorem isKey_erase (key : String) (n : Node) : n.erase.isKey key = n.isKey key := by
  cases n <;> rfl

theorem values_erase (n : Node) : n.erase.values = n.values.map erase := by
  cases n with
  | map m es => simp [erase, values, eraseEntries_eq]
  | _ => rfl

theorem items_erase (n : Node) : n.erase.items = n.items.map erase := by
  cases n with
  | sequence m ns => simp [erase, items, eraseAll_eq]
  | _ => rfl

/-- **A key's value is read through `erase`**: where the erased node has a value
for `key`, the node has one, which erases to it. -/
theorem get_of_erase {n c : Node} {key : String} (h : n.erase.get key = .ok c) :
    ∃ c', n.get key = .ok c' ∧ c'.erase = c := by
  cases n with
  | zombie k => cases h
  | scalar m t => cases h
  | null m => exact ⟨_, rfl, Except.ok.inj h⟩
  | sequence m ns => exact ⟨_, rfl, Except.ok.inj h⟩
  | map m es =>
    refine ⟨_, rfl, ?_⟩
    simp only [erase, get, eraseEntries_eq, List.find?_map, Function.comp_def, isKey_erase,
      Except.ok.injEq] at h
    rw [← h]
    cases es.find? (fun e => e.1.isKey key) <;> rfl

theorem as_eq_ok {α : Type} {decode : Node → Option α} {n : Node} {v : α} :
    n.as decode = .ok v ↔ n.isDefined = true ∧ decode n = some v := by
  cases n with
  | zombie k => simp [as, isDefined]
  | _ => simp only [as, isDefined, true_and]; split <;> simp_all

/-- **A conversion that reads no mark reads through `erase`.** -/
theorem as_of_erase {α : Type} {decode : Node → Option α} (hd : ∀ n, decode n.erase = decode n)
    {n : Node} {v : α} (h : n.erase.as decode = .ok v) : n.as decode = .ok v := by
  rw [as_eq_ok, isDefined_erase, hd] at h
  exact as_eq_ok.2 h

end Node

theorem decodeString_erase (n : Node) : decodeString n.erase = decodeString n := by
  cases n <;> rfl

theorem decodeScalar_erase {α : Type} (decode : String → Option α) (n : Node) :
    decodeScalar decode n.erase = decodeScalar decode n := by
  cases n <;> rfl

/-! ## Writing -/

/-- A scalar, at the mark `erase` leaves. -/
def Node.str (text : String) : Node := .scalar origin text

/-- A map of scalar keys, at the mark `erase` leaves. -/
def Node.obj (entries : List (String × Node)) : Node := .map origin (entries.map fun e => (str e.1, e.2))

/-- A sequence, at the mark `erase` leaves. -/
def Node.seq (items : List Node) : Node := .sequence origin items

/-! ## Reading through `erase` -/

/-- `x` returns every value `x'` returns. -/
def OkAs {ε α : Type} (x x' : Except ε α) : Prop := ∀ v, x' = .ok v → x = .ok v

section OkAs
variable {ε α β : Type}

theorem okAs_refl (x : Except ε α) : OkAs x x := fun _ => id

theorem OkAs.bind {x x' : Except ε α} {g g' : α → Except ε β} (hx : OkAs x x')
    (hg : ∀ a, OkAs (g a) (g' a)) : OkAs (x >>= g) (x' >>= g') := fun v h =>
  let ⟨a, ha, hv⟩ := bind_eq_ok.1 h
  bind_eq_ok.2 ⟨a, hx a ha, hg a v hv⟩

theorem OkAs.ite {c : Prop} [Decidable c] {x x' y y' : Except ε α} (hx : OkAs x x') (hy : OkAs y y') :
    OkAs (if c then x else y) (if c then x' else y') := by
  split
  · exact hx
  · exact hy

/-- A node looked up through `erase` is the erasure of the node looked up. -/
theorem okAs_get_bind (n : Node) (key : String) {g g' : Node → Except Exception β}
    (hg : ∀ c, OkAs (g c) (g' c.erase)) : OkAs (n.get key >>= g) (n.erase.get key >>= g') := fun v h =>
  let ⟨_, hc', hv⟩ := bind_eq_ok.1 h
  let ⟨c, hc, he⟩ := Node.get_of_erase hc'
  bind_eq_ok.2 ⟨c, hc, hg c v (he ▸ hv)⟩

theorem OkAs.mapError {ε' : Type} {x x' : Except ε α} (h : OkAs x x') (f : ε → ε') :
    OkAs (x.mapError f) (x'.mapError f) := fun v hv => by
  cases x' with
  | error e => cases hv
  | ok w =>
    obtain rfl : w = v := Except.ok.inj hv
    simp [Except.mapError, h w rfl]

theorem okAs_as {decode : Node → Option α} (hd : ∀ n, decode n.erase = decode n) (n : Node) :
    OkAs (n.as decode) (n.erase.as decode) := fun _ => Node.as_of_erase hd

theorem okAs_mapM {f : Node → Except ε α} (hf : ∀ n, OkAs (f n) (f n.erase)) (ns : List Node) :
    OkAs (ns.mapM f) ((ns.map Node.erase).mapM f) := fun vs h => by
  rw [mapM_eq_ok, List.forall₂_map_left_iff] at h
  exact (mapM_eq_ok _ _).2 (h.imp fun n v => hf n v)

end OkAs

end Yaml
end RadioControl
