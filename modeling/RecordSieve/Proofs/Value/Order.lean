/-
RecordSieve.Proofs.Value.Order — the order of values.

Values of one type always compare, and their order is a total preorder:
for strings that of the collation, for doubles that of the numbers, for
moments that of the instants.  Values of two types never compare, so the
laws say which comparisons there are as well as what they give.
-/
import RecordSieve.Proofs.Collation.Order
import RecordSieve.Value.Basic

namespace RecordSieve

/-! ## Types with an order of their own -/

instance : Std.TransCmp Decimal.Binary64.order :=
  inferInstanceAs (Std.TransCmp (compareOn Decimal.Binary64.units))

instance : Std.TransCmp Date.order :=
  inferInstanceAs (Std.TransCmp
    (compareLex (compareOn Date.year) (compareLex (compareOn Date.month) (compareOn Date.day))))

instance : Std.TransCmp Moment.order :=
  inferInstanceAs (Std.TransCmp (compareLex (compareOn Moment.seconds) (compareOn Moment.nanos)))

instance : Std.TransCmp Duration.order :=
  inferInstanceAs (Std.TransCmp (compareOn Duration.nanos))

/-! ## Values -/

namespace FieldValue

variable {flags : CompareFlags} {u v w : FieldValue}

theorem exists_order? (h : v.kind = w.kind) : ∃ o, order? flags v w = some o :=
  Option.isSome_iff_exists.mp (order?_isSome_iff.mpr h)

theorem order?_self (flags : CompareFlags) (v : FieldValue) : order? flags v v = some .eq := by
  cases v <;> exact congrArg some Std.ReflCmp.compare_self

theorem equal_self (flags : CompareFlags) (v : FieldValue) : v.equal flags v = true := by
  simp [equal, order?_self]

theorem order?_swap (flags : CompareFlags) (v w : FieldValue) :
    order? flags w v = (order? flags v w).map Ordering.swap := by
  cases v with
  | string a | integer a | double a | boolean a | dateTime a | date a | duration a =>
    cases w <;> first | rfl | exact congrArg some Std.OrientedCmp.eq_swap

theorem order?_isLE_trans {o o' : Ordering} (huv : order? flags u v = some o)
    (ho : o.isLE = true) (hvw : order? flags v w = some o') (ho' : o'.isLE = true) :
    ∃ o'', order? flags u w = some o'' ∧ o''.isLE = true := by
  cases u with
  | string a | integer a | double a | boolean a | dateTime a | date a | duration a =>
    -- A comparison that there is puts the next value in the type of the one before.
    cases v <;> cases huv
    cases w <;> cases hvw
    exact ⟨_, rfl, Std.TransCmp.isLE_trans ho ho'⟩

end FieldValue

end RecordSieve
