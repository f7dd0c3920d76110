import MultiTape.Numeral

/-!
# Head moves

A head moves one cell to the left or to the right, or stays. In program text a move is a numeral:
`-1`, `0`, `1` or `+1`.
-/

namespace MultiTape

/-- A move of a head. -/
inductive Move where
  /-- One cell to the left. -/
  | left
  /-- No move. -/
  | stay
  /-- One cell to the right. -/
  | right
  deriving DecidableEq, Repr

namespace Move

/-- The displacement of the head. -/
def offset : Move → Int
  | .left => -1
  | .stay => 0
  | .right => 1

/-- The name of a move. -/
def name : Move → Text
  | .left => "LEFT".toText
  | .stay => "STAY".toText
  | .right => "RIGHT".toText

/-- A move as transitions show it. -/
def render : Move → Text
  | .left => "-1".toText
  | .stay => "0".toText
  | .right => "+1".toText

/-- A displacement that is no move. -/
structure Invalid where
  /-- The displacement. -/
  value : Int
  deriving DecidableEq, Repr

/-- The wording for a displacement that is no move. -/
def Invalid.message (e : Invalid) : Text :=
  Text.decimal e.value ++ " is not a valid Direction".toText

/-- The move with the given displacement. -/
def ofInt (d : Int) : Except Invalid Move :=
  if d = -1 then .ok .left
  else if d = 0 then .ok .stay
  else if d = 1 then .ok .right
  else .error ⟨d⟩

/-- Why a text is no move. -/
inductive ReadError where
  /-- The text is no numeral. -/
  | notNumeral (fault : Numeral.Fault) (t : Text)
  /-- The numeral is no move. -/
  | invalid (e : Invalid)
  deriving DecidableEq, Repr

/-- The wording for a text that is no move. -/
def ReadError.message : ReadError → Text
  | .notNumeral fault t => fault.message t
  | .invalid e => e.message

/-- The move that a text denotes. -/
def read (t : Text) : Except ReadError Move :=
  match Numeral.read t with
  | .error fault => .error (.notNumeral fault t)
  | .ok d => (ofInt d).mapError .invalid

@[simp] theorem ofInt_offset (m : Move) : ofInt m.offset = .ok m := by
  cases m <;> rfl

end Move

end MultiTape
