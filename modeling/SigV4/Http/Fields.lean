import SigV4.Http.FieldValue
import SigV4.Http.Token

/-!
# The fields of a request

The fields of a request are a list of names and values. A name may occur several
times, and then the order of its values matters; the order between different names
never does. So the view of the fields is the list of values of each name
(`SigV4.Http.Fields.values`), and each operation is described by what it does to
that list.

* `SigV4.Http.Fields.append` puts a value behind those of its name;
* `SigV4.Http.Fields.insert` replaces all the values of a name by one.
-/

namespace SigV4

namespace Http

/-- **The fields** of a request, in the order in which they were given. -/
structure Fields where
  /-- The names and values. -/
  toList : List (FieldName × FieldValue)
deriving DecidableEq

namespace Fields

/-- No fields. -/
def empty : Fields := ⟨[]⟩

/-- The values of a name, in order. -/
def values (fields : Fields) (name : FieldName) : List FieldValue :=
  (fields.toList.filter (·.1 = name)).map (·.2)

/-- The first value of a name. -/
def get? (fields : Fields) (name : FieldName) : Option FieldValue :=
  (fields.values name).head?

/-- Whether a name occurs. -/
def contains (fields : Fields) (name : FieldName) : Bool :=
  fields.toList.any (·.1 = name)

/-- The names that occur, each of them once. -/
def names (fields : Fields) : List FieldName :=
  (fields.toList.map (·.1)).eraseDups

/-- **Puts a value behind** the values of its name. -/
def append (fields : Fields) (name : FieldName) (value : FieldValue) : Fields :=
  ⟨fields.toList ++ [(name, value)]⟩

/-- The fields without those of a name. -/
def erase (fields : Fields) (name : FieldName) : Fields :=
  ⟨fields.toList.filter (·.1 ≠ name)⟩

/-- **Replaces the values** of a name by one. -/
def insert (fields : Fields) (name : FieldName) (value : FieldValue) : Fields :=
  (fields.erase name).append name value

/-! ### What the operations do to the values -/

@[simp] theorem values_empty (name : FieldName) : empty.values name = [] := rfl

@[simp] theorem values_append (fields : Fields) (name other : FieldName) (value : FieldValue) :
    (fields.append name value).values other =
      fields.values other ++ if name = other then [value] else [] := by
  by_cases h : name = other <;> simp [append, values, h]

@[simp] theorem values_erase (fields : Fields) (name other : FieldName) :
    (fields.erase name).values other = if name = other then [] else fields.values other := by
  by_cases h : name = other
  · subst h
    simp [erase, values, List.filter_filter]
  · rw [if_neg h, erase, values, values, List.filter_filter]
    congr 1
    apply List.filter_congr
    rintro ⟨n, v⟩ _
    by_cases hn : n = other
    · have : other ≠ name := fun e => h e.symm
      simp [hn, this]
    · simp [hn]

/-- **After an insertion** the name has the one value, and every other name has the
values it had. -/
@[simp] theorem values_insert (fields : Fields) (name other : FieldName) (value : FieldValue) :
    (fields.insert name value).values other =
      if name = other then [value] else fields.values other := by
  by_cases h : name = other <;> simp [insert, h]

end Fields

end Http

end SigV4
