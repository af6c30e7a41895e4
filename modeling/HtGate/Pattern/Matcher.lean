import HtGate.Pattern.Repetition
/-!
# Matching patterns

A part is matched from a position on together with what has to match after it, so that another way is
tried where the rest does not match. A pattern is found in a text if it matches from some position on.
-/

namespace HtGate.Pattern

mutual

/-- Matches a part and what follows it. -/
def run (s : Subject) : Node → Step → Nat → Trace → Bool × Trace
  | .one test, k, pos, t => if s.has test pos then k (pos + 1) t else (false, t)
  | .anchor position multiline ascii, k, pos, t =>
    if s.isAt multiline ascii pos position then k pos t else (false, t)
  | .group index body, k, pos, t =>
    runAll s body (fun pos t => k pos (t.mark (2 * index - 1) pos)) pos (t.mark (2 * index - 2) pos)
  | .atomic body, k, pos, t =>
    match runAll s body accept pos (t.note pos) with
    | (true, t) => k t.noted t
    | (false, t) => (false, t.note pos)
  | .look back negated looped body, k, pos, t =>
    if pos < back then if negated then k pos t else (false, t)
    else
      match runAll s body accept (pos - back) (t.note (pos - back)), negated with
      | (true, after), false => k pos after
      | (false, after), true => k pos (after.back looped t)
      | (_, after), _ => (false, after)
  | .reference index same, k, pos, t =>
    match t.span? index with
    | some (start, stop) =>
      if s.sameSpan same start pos (stop - start) then k (pos + (stop - start)) t else (false, t)
    | none => (false, t)
  | .conditional index yes no, k, pos, t =>
    if (t.span? index).isSome then runAll s yes k pos t else runAll s no k pos t
  | .choice looped alternatives, k, pos, t => runFirst s looped t alternatives k pos t
  | .repeated greed least most looped c next, k, pos, t =>
    c.repeated s looped greed least most next k pos t
  | .repetition greed least most looped body, k, pos, t =>
    let fuel := least + s.chars.size + 2
    match greed with
    | .greedy => greedily (runAll s body) least most k fuel 0 none pos t
    | .lazy => lazily (runAll s body) least most looped k fuel 0 none pos t
    | .possessive => possessively (runAll s body accept) least most k fuel pos t

/-- Matches parts one after another and what follows them. -/
def runAll (s : Subject) : List Node → Step → Nat → Trace → Bool × Trace
  | [], k, pos, t => k pos t
  | p :: more, k, pos, t => run s p (runAll s more k) pos t

/-- Matches the first of several alternatives that does, with what follows it. -/
def runFirst (s : Subject) (looped : Bool) (before : Trace) :
    List (Next × List Node) → Step → Nat → Trace → Bool × Trace
  | [], _, _, t => (false, t)
  | (next, parts) :: more, k, pos, t =>
    if next.rulesOut s pos then runFirst s looped before more k pos t
    else
      match runAll s parts k pos (t.note pos) with
      | (true, t) => (true, t)
      | (false, t) => runFirst s looped before more k pos (t.back looped before)

end

namespace Expression

/-- Whether a pattern matches somewhere in a text. If it is open how a match begins, none is looked for
where too little of the text is left. -/
def search (e : Expression) (t : Text) : Bool :=
  let s : Subject := ⟨t.toArray⟩
  let nodes := resolveAll e.flags false .other e.parts
  let spare := if areOpen e.flags e.parts then e.least - 1 else 0
  e.least ≤ s.chars.size && (List.range (s.chars.size + 1 - spare)).any fun start =>
    (runAll s nodes accept start { noted := start }).1

end Expression

end HtGate.Pattern
