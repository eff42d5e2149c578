import Conform.Proofs.Shape

/-! What a checker of shapes sees of a value: its variant, the contents of simple types, and no more
of an object than the properties that the checker declares. -/

namespace Conform

namespace Value

variable {keys : List String}

/-- Values of one variant with the same to be seen by who reads only the listed properties of
objects. Symbols and functions all look alike. -/
inductive Alike (keys : List String) : Value → Value → Prop where
  | undefined : Alike keys .undefined .undefined
  | null : Alike keys .null .null
  | boolean (b : Bool) : Alike keys (.boolean b) (.boolean b)
  /-- The zeros are equal. -/
  | number {a b : Number} (h : a.equals b = true ∨ a.isNaN = true ∧ b.isNaN = true) :
      Alike keys (.number a) (.number b)
  | bigint (n : Int) : Alike keys (.bigint n) (.bigint n)
  | string (s : String) : Alike keys (.string s) (.string s)
  | symbol (i j : Nat) (d e : String) : Alike keys (.symbol i d) (.symbol j e)
  | array {i j : Nat} {xs ys : List Value} (hlength : xs.length = ys.length)
      (hitems : ∀ (index : Nat) (x y : Value), xs[index]? = some x → ys[index]? = some y →
        Alike keys x y) :
      Alike keys (.array i xs) (.array j ys)
  | object {i j : Nat} {c d : Option Class} {es fs : List (String × Value)}
      (hproperty : ∀ key ∈ keys,
        Alike keys ((Value.object i c es).property key) ((Value.object j d fs).property key)) :
      Alike keys (.object i c es) (.object j d fs)
  | regexp {i j : Nat} {p q : Pattern} (h : p.source = q.source) :
      Alike keys (.regexp i p) (.regexp j q)
  | function (f g : Function) : Alike keys (.function f) (.function g)

namespace Alike

/-- Values that are alike have the same variant and the same simple contents. -/
theorem resembles {v w : Value} (h : v.Alike keys w) : v.Resembles w := by
  cases h with
  | number h => exact .number (Number.position_eq_iff.mpr h)
  | _ => constructor

theorem items {i j : Nat} {xs ys : List Value} (h : (Value.array i xs).Alike keys (.array j ys)) :
    List.Forall₂ (Alike keys) xs ys := by
  cases h with
  | array hlength hitems =>
    refine List.forall₂_iff_get.mpr ⟨hlength, fun index hx hy => ?_⟩
    exact hitems index _ _ (List.getElem?_eq_getElem hx) (List.getElem?_eq_getElem hy)

theorem getElem?_getD {xs ys : List Value} (hlength : xs.length = ys.length)
    (hitems : ∀ (index : Nat) (x y : Value), xs[index]? = some x → ys[index]? = some y →
      x.Alike keys y) (index : Nat) :
    (xs[index]?.getD .undefined).Alike keys (ys[index]?.getD .undefined) := by
  rcases Nat.lt_or_ge index xs.length with h | h
  · have hx := List.getElem?_eq_getElem h
    have hy := List.getElem?_eq_getElem (hlength ▸ h)
    rw [hx, hy]
    exact hitems index _ _ hx hy
  · rw [List.getElem?_eq_none h, List.getElem?_eq_none (hlength ▸ h)]
    exact .undefined

/-- Under a declared key there are values that are alike again. -/
theorem property {v w : Value} (h : v.Alike keys w) {key : String} (hkey : key ∈ keys) :
    (v.property key).Alike keys (w.property key) := by
  cases h with
  | object hproperty => exact hproperty key hkey
  | array hlength hitems =>
    simp only [Value.property, hlength]
    split
    · exact .number (Number.position_eq_iff.mp rfl)
    · cases readIndex? key with
      | none => exact .undefined
      | some index => exact getElem?_getD hlength hitems index
  | regexp h =>
    simp only [Value.property, h]
    split
    · exact .string _
    · exact .undefined
  | _ => exact .undefined

/-- Being alike is a likeness, and so no checker of shapes tells such values apart. -/
theorem likeness (keys : List String) : Likeness (Alike keys) keys where
  resembles h := h.resembles
  items h := h.items
  property hkey h := h.property hkey

end Alike

end Value

/-- A checker of shapes reports the same of all values that look alike through the properties that
it declares. -/
theorem Checker.sees_declared (c : Checker) (hc : ∀ d ∈ c.nodes, d.isShape = true) {i : Inspector}
    (hi : c.inspector.result = .ok i) {v w : Value} (h : v.Alike c.keys w) :
    (i.inspect v).value.passed = (i.inspect w).value.passed ∧
      (i.inspect v).value.kind = (i.inspect w).value.kind ∧
      (i.inspect v).value.message.text = (i.inspect w).value.message.text := by
  have hblind : i.Blind (Value.Alike c.keys) := by
    refine blind_of_nodes (Value.Alike.likeness c.keys) c (List.Subset.refl _) ?_ hi
    intro d hd hshape
    rw [hc d hd] at hshape
    cases hshape
  exact hblind.reports_eq h

/-- A list of one object, and another one: the objects differ in identity, class, order and in what
is not declared, one of them has a property that the other misses, and the zeros have two signs. -/
theorem Checker.sees_declared_points :
    let c : Checker := .array (some (.object false
      [("x", .number ⟨some (.infinity false), none, true⟩), ("tag", .optional .function)]))
      none (some 2)
    let v : Value := .array 0 [.object 1 none [("x", .number (.finite false .zero)), ("y", .null)]]
    let w : Value := .array 2
      [.object 3 (some (.base 4 "Point")) [("tag", .undefined), ("x", .number .negativeZero)]]
    (∀ d ∈ c.nodes, d.isShape = true) ∧ v.Alike c.keys w ∧
      ∃ i, c.inspector.result = .ok i ∧ (i.inspect v).value.passed = false ∧
        (i.inspect v).value.message.text = (i.inspect w).value.message.text := by
  intro c v w
  have hc : ∀ d ∈ c.nodes, d.isShape = true := List.all_eq_true.mp rfl
  have hobject : Value.Alike c.keys
      (.object 1 none [("x", .number (.finite false .zero)), ("y", .null)])
      (.object 3 (some (.base 4 "Point")) [("tag", .undefined), ("x", .number .negativeZero)]) := by
    refine .object fun key hkey => ?_
    rcases List.mem_cons.mp (show key ∈ ["x", "tag"] from hkey) with rfl | hkey
    · exact .number (.inl rfl)
    · obtain rfl := List.mem_singleton.mp hkey
      exact .undefined
  have hvw : v.Alike c.keys w := by
    refine .array rfl fun index x y hx hy => ?_
    cases index with
    | zero =>
      cases hx
      cases hy
      exact hobject
    | succ index => cases hx
  exact ⟨hc, hvw, _, rfl, rfl, (c.sees_declared hc rfl hvw).2.2⟩

end Conform
