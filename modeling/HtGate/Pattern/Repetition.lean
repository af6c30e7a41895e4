import HtGate.Pattern.Node
import HtGate.Pattern.Subject
import HtGate.Pattern.Trace
/-!
# Repetitions in matching

How something is matched several times before what follows it. A body is an attempt that is given the
attempt at what comes after it. A round that does not move is the last one.
-/

namespace HtGate.Pattern

namespace Next

/-- Whether it is known that a position is not followed by what has to come next. -/
def rulesOut (s : Subject) (pos : Nat) : Next → Bool
  | char code => !s.has (·.toNat == code) pos
  | among test => !s.has test pos
  | other => false

/-- The same where only a single character counts as known. -/
def rulesOutByChar (s : Subject) (pos : Nat) : Next → Bool
  | char code => !s.has (·.toNat == code) pos
  | _ => false

end Next

/-- The attempt at nothing, which notes where matching has got to. -/
def accept : Step := fun pos t => (true, t.note pos)

namespace Single

/-- Tries what follows a run that may be shortened down to `low`, from the longest run on. -/
def giveBack (s : Subject) (looped : Bool) (before : Trace) (next : Next) (k : Step) (low : Nat) :
    Nat → Trace → Bool × Trace
  | extra, t =>
    if next.rulesOutByChar s (low + extra) then
      match extra with
      | 0 => (false, t)
      | extra + 1 => giveBack s looped before next k low extra t
    else
      match k (low + extra) (t.note (low + extra)), extra with
      | (true, t), _ => (true, t)
      | (false, t), 0 => (false, t.back looped before)
      | (false, t), extra + 1 => giveBack s looped before next k low extra (t.back looped before)

/-- Tries what follows a run that may be extended, from the shortest run on. -/
def extend (s : Subject) (looped : Bool) (before : Trace) (c : Single) (k : Step) :
    Nat → Nat → Trace → Bool × Trace
  | extra, pos, t =>
    match k pos (t.note pos) with
    | (true, t) => (true, t)
    | (false, t) =>
      let t := (t.back looped before).note pos
      if s.has c.test pos then
        let t := if c.notes then t.note (pos + 1) else t
        match extra with
        | 0 => (false, t)
        | extra + 1 => extend s looped before c k extra (pos + 1) t
      else (false, t)

/-- Matches a character several times and what follows it. -/
def repeated (s : Subject) (looped : Bool) (greed : Greed) (least : Nat) (most : Option Nat)
    (c : Single) (next : Next) (k : Step) (pos : Nat) (t : Trace) : Bool × Trace :=
  let left := s.chars.size - pos
  if left < least then (false, t)
  else
    let limit := min (most.getD left) left
    let stop := s.runEnd c.test (if greed = .lazy then least else limit) pos
    let t := t.note (if c.notes then stop else pos)
    if stop < pos + least then (false, t)
    else
      match greed with
      | .greedy => giveBack s looped t next k (pos + least) (stop - (pos + least)) t
      | .lazy => extend s looped t c k (limit - least) stop t
      | .possessive => k stop t

end Single

/-- Does a needed round and then goes on with the number of rounds done. A round that leaves everything
as it was stands for all the needed ones. -/
def neededRound (body : Step → Step) (least count : Nat) (onward : Nat → Step) (pos : Nat) (t : Trace) :
    Bool × Trace :=
  match body (fun stop after =>
      onward (if stop = pos ∧ after.marks = t.marks then least else count + 1) stop after) pos
      (t.note pos) with
  | (true, t) => (true, t)
  | (false, t) => (false, t.note pos)

/-- Repeats a body as often as possible first, given the rounds done and where the last one began. -/
def greedily (body : Step → Step) (least : Nat) (most : Option Nat) (rest : Step) :
    Nat → Nat → Option Nat → Nat → Trace → Bool × Trace
  | 0, _, _, _, t => (false, t)
  | fuel + 1, count, last, pos, t =>
    if count < least then
      neededRound body least count (fun count => greedily body least most rest fuel count last) pos t
    else if most.all (count < ·) && last != some pos then
      match body (greedily body least most rest fuel (count + 1) (some pos)) pos (t.note pos) with
      | (true, t) => (true, t)
      | (false, after) => stopping pos ((after.back true t).note pos)
    else stopping pos (t.note pos)
where
  /-- Tries what follows. -/
  stopping (pos : Nat) (t : Trace) : Bool × Trace :=
    match rest pos t with
    | (true, t) => (true, t)
    | (false, t) => (false, t.note pos)

/-- Repeats a body as seldom as possible first, given the rounds done and where the last one began. -/
def lazily (body : Step → Step) (least : Nat) (most : Option Nat) (looped : Bool) (rest : Step) :
    Nat → Nat → Option Nat → Nat → Trace → Bool × Trace
  | 0, _, _, _, t => (false, t)
  | fuel + 1, count, last, pos, t =>
    if count < least then
      neededRound body least count (fun count => lazily body least most looped rest fuel count last)
        pos t
    else
      match rest pos (t.note pos) with
      | (true, t) => (true, t)
      | (false, after) =>
        let after := (after.back looped t).note pos
        if most.any (· ≤ count) || last == some pos then (false, after)
        else
          match body (lazily body least most looped rest fuel (count + 1) (some pos)) pos after with
          | (true, t) => (true, t)
          | (false, t) => (false, t.note pos)

/-- Does so many rounds, each from the position noted last. -/
def rounds (body : Step) : Nat → Trace → Bool × Trace
  | 0, t => (true, t)
  | n + 1, t =>
    match body t.noted t with
    | (true, t) => rounds body n t
    | (false, t) => (false, t)

/-- Does further rounds as long as they match, given where the last one began. The round that does not
match takes its marks back, and not the position it noted. -/
def furtherRounds (body : Step) : Nat → Option Nat → Option Nat → Trace → Trace
  | 0, _, _, t => t
  | fuel + 1, left, last, t =>
    if left == some 0 || last == some t.noted then t
    else
      match body t.noted t with
      | (true, after) => furtherRounds body fuel (left.map (· - 1)) (some t.noted) after
      | (false, after) => after.back true t

/-- Repeats a body as often as possible and not otherwise. What follows starts where the last round
noted a position. -/
def possessively (body : Step) (least : Nat) (most : Option Nat) (rest : Step) (fuel : Nat) (pos : Nat)
    (t : Trace) : Bool × Trace :=
  match rounds body least (t.note pos) with
  | (false, t) => (false, t.note pos)
  | (true, t) =>
    let t := furtherRounds body fuel (most.map (· - least)) none t
    rest t.noted t

end HtGate.Pattern
