import RuleVerdict.Pattern.Encoding
import Std.Data.HashMap

/-!
# The room that a pattern takes

A simplified pattern is laid out as a machine that compares a text byte by byte, once for reading a
text forward and once for reading it backward. A machine consists of states of one size; a state
with several ways to go on keeps a list of them beside it. A counted repetition is laid out once
for each time, so that a short pattern can ask for a machine of any size. Laying out stops as soon
as the machine has become too large.

The rows of byte ranges of a set share states. How far they do depends on a table of limited size in
which the states of the set are kept, so it is followed state by state: each state has its place
in the machine as its number.
-/

namespace RuleVerdict.Pattern

open Unicode

/-- The room that a machine takes: its states, and the bytes of the lists that they keep. -/
structure Room where
  states : Nat
  extra : Nat
  deriving DecidableEq

namespace Room

/-- The bytes of a machine; a state takes 32 of them. -/
def bytes (r : Room) : Nat := 32 * r.states + r.extra

/-- More states, and more bytes for their lists. -/
def add (r : Room) (states extra : Nat) : Room := ⟨r.states + states, r.extra + extra⟩

/-- A way to go on from a state. Only a fork keeps a list of such ways. -/
def link (r : Room) (forked : Bool) : Room := if forked then r.add 0 4 else r

end Room

/-- The bytes that a machine may take. -/
def roomLimit : Nat := 10485760

/-- What has been laid out; `forked` says that its last state is a fork. -/
structure Laid where
  room : Room
  forked : Bool
  deriving DecidableEq

/-! ## Rows of byte ranges read forward -/

/-- One value of a hash that takes one number after the other. -/
def mixed (h : UInt64) (n : Nat) : UInt64 := (h ^^^ n.toUInt64) * 1099511628211

/-- The hash of no number. -/
def unmixed : UInt64 := 14695981039346656037

/-- A way from a state to another for the bytes in a range. -/
structure Arrow where
  bytes : ByteRange
  target : Nat
  deriving DecidableEq

/-- The place of a state in a table with 10000 places. -/
def forwardSlot (arrows : List Arrow) : Nat :=
  ((arrows.foldl (fun h a => mixed (mixed (mixed h a.bytes.1) a.bytes.2) a.target) unmixed) %
    10000).toNat

/-- A state that is not laid out yet: its ways on, the last one first, and the range of the way
whose target is still being built. -/
structure Unfinished where
  arrows : List Arrow
  ahead : Option ByteRange

/-- Gives the way that is being built its target. -/
def Unfinished.arrive (u : Unfinished) (target : Nat) : Unfinished :=
  match u.ahead with
  | some bytes => ⟨⟨bytes, target⟩ :: u.arrows, none⟩
  | none => u

/-- The tree of the rows of a set while it is laid out: the states that are laid out already and
kept in the table, and the unfinished states on the way to the row added last, the deepest one
first. -/
structure Growth where
  room : Room
  table : Std.HashMap Nat (List Arrow × Nat)
  path : List Unfinished

namespace Growth

/-- Lays out a state, unless the table has the same one. -/
def place (g : Growth) (arrows : List Arrow) : Growth × Nat :=
  let slot := forwardSlot arrows
  let number := g.room.states
  let fresh : Growth × Nat :=
    (⟨g.room.add 1 (8 * arrows.length), g.table.insert slot (arrows, number), g.path⟩, number)
  match g.table[slot]? with
  | some (known, old) => if known = arrows then (g, old) else fresh
  | none => fresh

/-- Finishes the given number of states from the deepest one on. The way to each of them gets it as
its target, the way to what is below the deepest one gets the given one. -/
def finish (target : Nat) : Nat → Growth → Growth
  | 0, g =>
    match g.path with
    | [] => g
    | u :: us => { g with path := u.arrive target :: us }
  | n + 1, g =>
    match g.path with
    | [] => g
    | u :: us =>
      let (g, number) := { g with path := us }.place (u.arrive target).arrows.reverse
      finish number n g

/-- How many ranges at the beginning of a row are on the path already. -/
def sharedLength : List ByteRange → List Unfinished → Nat
  | r :: rs, u :: us => if u.ahead = some r then sharedLength rs us + 1 else 0
  | _, _ => 0

/-- Puts the ranges of a row that are not on the path behind its last state. -/
def extend (row : List ByteRange) (path : List Unfinished) : List Unfinished :=
  match row, path with
  | r :: rs, u :: us => (rs.map fun q => ⟨[], some q⟩).reverse ++ { u with ahead := some r } :: us
  | _, path => path

/-- Adds a row of byte ranges behind which the machine goes on with the target. -/
def addRow (target : Nat) (g : Growth) (row : List ByteRange) : Growth :=
  let shared := sharedLength row g.path.reverse
  let g := g.finish target (g.path.length - (shared + 1))
  { g with path := extend (row.drop shared) g.path }

end Growth

/-- Lays out a set for reading forward. -/
def layRows (rows : List (List ByteRange)) (room : Room) : Room :=
  let target := room.states
  let g := rows.foldl (Growth.addRow target) ⟨room.add 1 0, ∅, [⟨[], none⟩]⟩
  (g.finish target g.path.length).room

/-! ## Rows of byte ranges read backward -/

/-- The place of a state in a table with 1000 places. -/
def backwardSlot (bytes : ByteRange) (target : Nat) : Nat :=
  (mixed (mixed (mixed unmixed target) bytes.1) bytes.2 % 1000).toNat

/-- What has been laid out of a set for reading backward, with the table of its states. -/
structure Suffixes where
  room : Room
  table : Std.HashMap Nat (Arrow × Nat)

/-- Lays out a state that goes to the target, unless the table has the same one. -/
def Suffixes.place (s : Suffixes) (target : Nat) (bytes : ByteRange) : Suffixes × Nat :=
  let slot := backwardSlot bytes target
  let number := s.room.states
  let fresh : Suffixes × Nat :=
    (⟨s.room.add 1 0, s.table.insert slot (⟨bytes, target⟩, number)⟩, number)
  match s.table[slot]? with
  | some (known, old) => if known = ⟨bytes, target⟩ then (s, old) else fresh
  | none => fresh

/-- Adds a row of byte ranges to the branches of a fork. -/
def Suffixes.addRow (target : Nat) (s : Suffixes) (row : List ByteRange) : Suffixes :=
  let (s, _) := row.foldl (fun (p : Suffixes × Nat) bytes => p.1.place p.2 bytes) (s, target)
  { s with room := s.room.add 0 4 }

/-- Lays out a set for reading backward. -/
def layRowsBackward (rows : List (List ByteRange)) (room : Room) : Room :=
  (rows.foldl (Suffixes.addRow (room.states + 1)) ⟨room.add 2 0, ∅⟩).room

/-! ## Choices between texts -/

/-- The words of a state by their first bytes, cut into stretches wherever a word ends. Where
nothing but ends has been seen, a further end says nothing new. -/
def stretches (begun ended : Bool) (done : List (Nat × List Nat)) :
    List (List Nat) → List (List (Nat × List Nat))
  | [] => [done.reverse]
  | [] :: ws =>
    if !begun && ended then stretches begun ended done ws
    else done.reverse :: stretches begun true [] ws
  | (b :: bs) :: ws => stretches true ended ((b, bs) :: done) ws

/-- The room of a fork over words that share their beginnings within a stretch, without the state at
which all words end. The length of the longest word bounds the depth. -/
def wordsRoom : Nat → List (List Nat) → Room
  | 0, _ => ⟨0, 0⟩
  | depth + 1, ws =>
    let all := stretches false false [] ws
    let start : Room := ⟨1, 4 * (all.length - 1)⟩
    all.foldl
      (fun room stretch =>
        let firsts := (stretch.map Prod.fst).eraseDups
        let room :=
          match firsts.length with
          | 0 => room
          | 1 => room.add 1 4
          | n => room.add 1 (4 + 8 * n)
        firsts.foldl
          (fun room b =>
            let rests := stretch.filterMap fun w => if w.1 = b then some w.2 else none
            if rests.all List.isEmpty then room
            else
              let below := wordsRoom depth rests
              room.add below.states below.extra)
          room)
      start

/-! ## Plans -/

/-- What of a simplified pattern matters for its layout in one direction. -/
inductive Plan where
  | block (room : Room)
  | rows (backward : Bool) (rows : List (List ByteRange))
  | group (body : Plan)
  | repetition (body : Plan) (least : Nat) (most : Option Nat) (consumes : Bool)
  | sequence (parts : List Plan)
  | choice (branches : List Plan)

/-- The texts of some forms, if each is a text. -/
def texts? (fs : List Form) : Option (List (List Char)) :=
  fs.mapM fun f =>
    match f with
    | .text cs => some cs
    | _ => none

/-- The plan of a choice between texts. -/
def wordsPlan (backward : Bool) (texts : List (List Char)) : Plan :=
  let ws := texts.map fun cs =>
    if backward then (encodedText cs).reverse else encodedText cs
  let depth := ws.foldl (fun n w => max n w.length) 0
  .block ((wordsRoom (depth + 1) ws).add 1 0)

/-- The plan of a set. -/
def setPlan (backward : Bool) (set : CodeSet) : Plan :=
  if set.ranges.all fun r => decide (r.2 ≤ 0x7F) then .block ⟨2, 8 * set.ranges.length⟩
  else .rows backward (set.ranges.flatMap fun r => byteRanges r.1 r.2)

mutual

/-- The plan of a simplified pattern. Groups are of no use when a text is read backward. -/
def plan (backward : Bool) : Form → Plan
  | .empty => .block ⟨1, 0⟩
  | .text cs => .block ⟨Form.textLength cs, 0⟩
  | .oneOf set => setPlan backward set
  | .look _ => .block ⟨1, 0⟩
  | .repetition body least most _ => .repetition (plan backward body) least most body.consumes
  | .group body => if backward then plan backward body else .group (plan backward body)
  | .sequence parts =>
    .sequence (if backward then (plans backward parts).reverse else plans backward parts)
  | .choice branches =>
    match texts? branches with
    | some texts => wordsPlan backward texts
    | none => .choice (plans backward branches)

/-- The plans of some simplified patterns. -/
def plans (backward : Bool) : List Form → List Plan
  | [] => []
  | f :: fs => plan backward f :: plans backward fs

end

/-! ## Laying out -/

/-- Further copies in a row behind what is there. -/
def copies (step : Room → Laid) : Nat → Laid → Laid
  | 0, l => l
  | n + 1, l =>
    if roomLimit < l.room.bytes then l
    else
      let next := step l.room
      copies step n ⟨next.room.link l.forked, next.forked⟩

/-- A number of copies in a row; none of them is the empty text. -/
def exactly (step : Room → Laid) (n : Nat) (room : Room) : Laid :=
  match n with
  | 0 => ⟨room.add 1 0, false⟩
  | n + 1 => copies step n (step room)

/-- Further copies in a row, each of which may be left out together with those behind it. -/
def optionals (step : Room → Laid) : Nat → Laid → Laid
  | 0, l => l
  | n + 1, l =>
    if roomLimit < l.room.bytes then l
    else
      let next := step (l.room.add 1 0)
      optionals step n ⟨(next.room.add 0 8).link l.forked, next.forked⟩

/-- A repetition without a largest count. -/
def layUnbounded (step : Room → Laid) (least : Nat) (consumes : Bool) (room : Room) : Laid :=
  match least with
  | 0 =>
    if consumes then
      let body := step (room.add 1 0)
      ⟨(body.room.add 0 4).link body.forked, true⟩
    else
      let body := step room
      ⟨(body.room.add 3 16).link body.forked, false⟩
  | 1 =>
    let body := step room
    ⟨(body.room.add 1 4).link body.forked, true⟩
  | n + 2 =>
    let before := exactly step (n + 1) room
    let body := step before.room
    ⟨((body.room.add 1 4).link before.forked).link body.forked, true⟩

/-- A repetition with a largest count. -/
def layBounded (step : Room → Laid) (least most : Nat) (room : Room) : Laid :=
  if least = most then exactly step most room
  else if least = 0 ∧ most = 1 then
    let body := step (room.add 1 0)
    ⟨(body.room.add 1 8).link body.forked, false⟩
  else
    let before := exactly step least room
    let last := optionals step (most - least) ⟨before.room.add 1 0, before.forked⟩
    ⟨last.room.link last.forked, false⟩

mutual

/-- Lays out a plan behind what takes the given room. -/
def layout : Plan → Room → Laid
  | .block more, room => ⟨room.add more.states more.extra, false⟩
  | .rows backward rows, room =>
    if roomLimit < room.bytes then ⟨room, false⟩
    else ⟨if backward then layRowsBackward rows room else layRows rows room, false⟩
  | .group body, room =>
    let body := layout body (room.add 1 0)
    ⟨(body.room.add 1 0).link body.forked, false⟩
  | .repetition body least most consumes, room =>
    match most with
    | none => layUnbounded (layout body) least consumes room
    | some most => layBounded (layout body) least most room
  | .sequence [], room => ⟨room.add 1 0, false⟩
  | .sequence (p :: ps), room => layoutRow ps (layout p room)
  | .choice branches, room => ⟨layoutBranches 0 branches room, false⟩

/-- Lays out some plans in a row behind what is there. -/
def layoutRow : List Plan → Laid → Laid
  | [], l => l
  | p :: ps, l =>
    let next := layout p l.room
    layoutRow ps ⟨next.room.link l.forked, next.forked⟩

/-- Lays out the branches of a choice, of which some have been laid out. The fork and the state at
which the branches meet follow the second one. -/
def layoutBranches (count : Nat) : List Plan → Room → Room
  | [], room => room
  | p :: ps, room =>
    let branch := layout p room
    let room := (branch.room.add 0 4).link branch.forked
    layoutBranches (count + 1) ps (if count = 1 then room.add 2 0 else room)

end

/-! ## Machines -/

mutual

/-- Whether every match begins at the beginning of the text. -/
def anchoredAtStart : Form → Bool
  | .look l => l == .textStart
  | .repetition body least _ _ => decide (0 < least) && anchoredAtStart body
  | .group body => anchoredAtStart body
  | .sequence parts => rowAnchoredAtStart parts
  | .choice branches => allAnchoredAtStart branches
  | _ => false

/-- Whether a part that is anchored comes before every part that can match a character. -/
def rowAnchoredAtStart : List Form → Bool
  | [] => false
  | f :: fs => anchoredAtStart f || (f.longest? == some 0 && rowAnchoredAtStart fs)

/-- Whether all branches are anchored. -/
def allAnchoredAtStart : List Form → Bool
  | [] => true
  | f :: fs => anchoredAtStart f && allAnchoredAtStart fs

end

mutual

/-- Whether every match ends at the end of the text. -/
def anchoredAtEnd : Form → Bool
  | .look l => l == .textEnd
  | .repetition body least _ _ => decide (0 < least) && anchoredAtEnd body
  | .group body => anchoredAtEnd body
  | .sequence parts => rowAnchoredAtEnd parts
  | .choice branches => allAnchoredAtEnd branches
  | _ => false

/-- Whether a part that is anchored comes behind every part that can match a character. -/
def rowAnchoredAtEnd : List Form → Bool
  | [] => false
  | f :: fs =>
    rowAnchoredAtEnd fs || (fs.all (fun g => g.longest? == some 0) && anchoredAtEnd f)

/-- Whether all branches are anchored. -/
def allAnchoredAtEnd : List Form → Bool
  | [] => true
  | f :: fs => anchoredAtEnd f && allAnchoredAtEnd fs

end

/-- What a machine begins with: a state, or a loop that passes over what is before the match. -/
def entrance (anchored : Bool) : Room := if anchored then ⟨1, 0⟩ else ⟨3, 16⟩

/-- A machine with its last state. -/
def Laid.closed (l : Laid) : Room := (l.room.add 1 0).link l.forked

/-- The room of the machine that reads forward. The whole pattern is a group. -/
def forwardRoom (f : Form) : Room :=
  (layout (.group (plan false f)) (entrance (anchoredAtStart f))).closed

/-- The room of the machine that reads backward. -/
def backwardRoom (f : Form) : Room :=
  (layout (plan true f) (entrance (anchoredAtEnd f))).closed

/-- Whether both machines of a simplified pattern keep within the limit. The one that reads backward
has at least a link for each row of a set, so it is soon found to be too large. -/
def Form.fits (f : Form) : Bool :=
  decide ((backwardRoom f).bytes ≤ roomLimit) && decide ((forwardRoom f).bytes ≤ roomLimit)

end RuleVerdict.Pattern
