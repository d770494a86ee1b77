import CanaryGate.Numeric.Figure

/-!
# Order of values

When two values are the same, and when one is below another. Numbers go by their value, texts by their
characters, and lists item by item; values of other kinds have no order.
-/

namespace CanaryGate

namespace Json

/-- Numbers of any kind have the same value; not-a-number has none. -/
def sameFigure (a b : Figure) : Bool := a.le b && b.le a

mutual

/-- The values are the same. True is one, and the fields of an object have no order. -/
def same : Json → Json → Bool
  | .arr items, .arr others => itemsSame items others
  | .obj fields, .obj others => fields.length = others.length && fieldsSame fields others
  | .str s, .str t => s = t
  | .null, .null => true
  | a, b =>
    match Figure.ofJson? a, Figure.ofJson? b with
    | some x, some y => sameFigure x y
    | _, _ => false

def itemsSame : List Json → List Json → Bool
  | [], [] => true
  | a :: rest, b :: others => same a b && itemsSame rest others
  | _, _ => false

def fieldsSame : List (String × Json) → Fields → Bool
  | [], _ => true
  | (name, value) :: rest, others => (Fields.get? others name).any (same value) && fieldsSame rest others

end

mutual

/-- The first value is below the second; none if the two have no order. -/
def below? : Json → Json → Option Bool
  | .arr items, .arr others => itemsBelow? items others
  | .str s, .str t => some (decide (s < t))
  | a, b =>
    match Figure.ofJson? a, Figure.ofJson? b with
    | some x, some y => some (x.lt y)
    | _, _ => none

/-- The first items that are not the same decide; of lists without such items the shorter one is below. -/
def itemsBelow? : List Json → List Json → Option Bool
  | a :: rest, b :: others => if same a b then itemsBelow? rest others else below? a b
  | items, others => some (decide (items.length < others.length))

end

/-- Texts are the same as themselves alone. -/
theorem same_str (s t : String) : same (.str s) (.str t) = decide (s = t) := by
  simp [same]

/-- Whole numbers are in their usual order. -/
theorem below?_int (m n : Int) : below? (.int m) (.int n) = some (decide (m < n)) := by
  simp [below?, Figure.ofJson?, Figure.lt, Figure.fraction]

end Json

end CanaryGate
