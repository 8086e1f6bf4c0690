import PathRouting.Session.Notification

/-!
# Cells

A cell holds a value and tells one handler of each write. The value is there before the handler is called, so that a
handler reads what was written, and writes again if it likes.
-/

namespace PathRouting

namespace Session

/-- Makes a cell under a name. -/
def openCell (s : Session) (name : Text) (value : Props) (handler : Handler) : Session :=
  let cell : Cell := ⟨value, s.handlers.length⟩
  let made := { s.addHandler handler with cells := s.cells ++ [cell] }
  { made with names := { made.names with cells := made.names.cells.put name s.cells.length } }

/-- Writes a cell and calls its handler. -/
def write (s : Session) (c : Nat) (value : Props) : Session :=
  match s.cells[c]? with
  | none => s
  | some cell =>
    { s with cells := s.cells.modify c (fun g => { g with value := value }) }.first [.call (.handler cell.handler) []]

/-- Writes a cell with what is added to its value. -/
def update (s : Session) (c : Nat) (added : Props) : Session := s.write c ((s.valueOf c).combine added)

end Session

end PathRouting
