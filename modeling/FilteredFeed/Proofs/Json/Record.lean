import FilteredFeed.Proofs.Json.Text
import Mathlib.Data.List.Nodup

namespace FilteredFeed.Json

open Grammar (bind_eq_ok ok_bind)

variable {name : String} {text rest : List Char}

-- An object is written as its members, of which all but the first follow a comma.

namespace Record

variable {α : Type} {fields : List (Field α)} {field : Field α} {first : Bool} {room : Nat}
variable {start record next final : α} {seen : List String} {written : List (String × Value)}

-- Members that take a record from one state to another: each has a field that reads its value.
inductive Fills (fields : List (Field α)) : α → List (String × Value) → α → Prop where
  | nil (record : α) : Fills fields record [] record
  | cons {record next final : α} {name : String} {value : Value} {field : Field α}
      {written : List (String × Value)}
      (found : fields.find? (·.name == name) = some field)
      (taken : ∀ rest, EndsMember rest →
        field.read record (value.compact ++ rest) = .ok (next, rest))
      (others : Fills fields next written final) :
      Fills fields record ((name, value) :: written) final

theorem Fills.append {others : List (String × Value)} (h : Fills fields record written next)
    (hothers : Fills fields next others final) : Fills fields record (written ++ others) final := by
  induction h with
  | nil record => exact hothers
  | cons found taken _ ih => exact .cons found taken (ih hothers)

theorem Fills.of {β : Type} {reader : Reader β} {put : α → β → α} {required : Bool} {read : β}
    {value : Value} (hfound : fields.find? (·.name == name) = some (.of name required reader put))
    (hread : ∀ rest, EndsMember rest → reader (value.compact ++ rest) = .ok (read, rest))
    (hothers : Fills fields (put record read) written final) :
    Fills fields record ((name, value) :: written) final := by
  refine .cons hfound (fun rest hend => ?_) hothers
  unfold Field.of
  dsimp only
  rw [hread rest hend]
  rfl

-- A property of records that reading a field never ends.
def Keeps (fields : List (Field α)) (P : α → Prop) : Prop :=
  ∀ field ∈ fields, ∀ record text next rest,
    field.read record text = .ok (next, rest) → P record → P next

section Keeps

variable {P : α → Prop} {seen' : List String}

end Keeps

end Record

end FilteredFeed.Json
