import ScreenForm.Screen.Buffer
import ScreenForm.Widget.Key

/-!
# Screens

A screen shows cells and gives input, one batch at a time. It only gets the
cells that differ from the last frame; a cell that a wide cluster covers is not
sent, and keeps what it had.

A frame that cannot be painted stops the program. The screen remembers that, and
what a console does with it afterwards is of no account.
-/

namespace ScreenForm

inductive Input where
  | key (key : Key)
  | resize (columns rows : Nat)
  deriving Repr, DecidableEq, Inhabited

structure Screen where
  /-- What the screen shows. -/
  shown : Buffer
  /-- The last frame that was drawn. -/
  last : Buffer
  /-- The batches of input that are still to come. -/
  queue : List (List Input)
  /-- The number of frames drawn. -/
  draws : Nat
  /-- Whether one of the frames could not be painted. -/
  broken : Bool
  deriving Repr, DecidableEq, Inhabited

namespace Screen

/-- Goes through the cells of a new frame and gives what the screen then shows of them. The first
`covered` cells are under a wide cluster of the new frame, and the first `stale` ones are sent
even if they have not changed, since a wide cluster of either frame reaches over them. -/
def refresh (covered stale : Nat) : List Cell → List Cell → List Cell → List Cell
  | next :: nexts, last :: lasts, shown :: showns =>
    let columns := Text.cellWidth next.symbol.toList
    let reach := max (max columns (Text.cellWidth last.symbol.toList)) stale
    (if (next ≠ last || 0 < stale) && covered = 0 then next else shown) ::
      refresh (columns - 1) (reach - 1) nexts lasts showns
  | _, _, _ => []

def ofSize (width height : Nat) : Screen :=
  let size := Area.fitSize width height
  let blank := Buffer.blank size.1 size.2
  ⟨blank, blank, [], 0, false⟩

def push (s : Screen) (batch : List Input) : Screen :=
  { s with queue := s.queue ++ [batch] }

def size (s : Screen) : Nat × Nat :=
  (s.shown.width, s.shown.height)

/-- The screen with all its cells blank, if its size is not the one of the last frame any more. -/
def fitted (s : Screen) : Screen :=
  if s.last.width = s.shown.width && s.last.height = s.shown.height then s
  else
    let blank := Buffer.blank s.shown.width s.shown.height
    { s with shown := blank, last := blank }

/-- The screen with this frame on it. -/
def display (s : Screen) (frame : Buffer) : Screen :=
  let cells := refresh 0 0 frame.cells.toList s.last.cells.toList s.shown.cells.toList
  { s with
    shown := { s.shown with cells := cells.toArray }
    last := frame }

/-- Draws a frame, if it can be painted. -/
def draw (s : Screen) (render? : Buffer → Option Buffer) : Screen :=
  let s := s.fitted
  let s :=
    match render? (.blank s.shown.width s.shown.height) with
    | some frame => s.display frame
    | none => { s with broken := true }
  { s with draws := s.draws + 1 }

/-- The cells row by row in another size, some cut off or some blank at the end. -/
def resize (s : Screen) (columns rows : Nat) : Screen :=
  let (width, height) := Area.fitSize columns rows
  let kept := s.shown.cells.extract 0 (width * height)
  let cells := kept ++ Array.replicate (width * height - kept.size) Cell.blank
  { s with shown := ⟨width, height, cells⟩ }

def applyResize (s : Screen) : Input → Screen
  | .resize columns rows => s.resize columns rows
  | .key _ => s

/-- The next batch of input, with the screen resized as it says. -/
def poll? (s : Screen) : Option (List Input × Screen) :=
  match s.queue with
  | [] => none
  | batch :: queue => some (batch, batch.foldl applyResize { s with queue })

def lines (s : Screen) : List String :=
  s.shown.lines

/-- Whether a row shows the text. -/
def contains (s : Screen) (text : String) : Bool :=
  s.lines.any fun line => (Text.splitAtWord text.toList line.toList).isSome

end Screen

end ScreenForm
