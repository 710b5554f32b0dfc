import Switchboard.Cli.Options
/-
# Suggesting a similar option

An unknown long option is compared with every long name by Jaro similarity, computed
over characters in double precision. Names scoring above 0.7 are candidates, and the
best one is suggested; among equally good ones the one listed last wins.

Jaro similarity of `a` and `b`: a character of `a` matches the first unmatched equal
character of `b` within `max |a| |b| / 2 - 1` places of it. With `m` matches and `t`
half the number of matched pairs out of order, the similarity is
`(m/|a| + m/|b| + (m - t)/m) / 3`, zero without matches, one for two empty texts.
-/
namespace Switchboard.Cli

/-- Which characters of `a` and of `b` are matched. -/
def jaroFlags (a b : List Char) : List Bool × List Bool :=
  let range := max a.length b.length / 2 - 1
  a.zipIdx.foldl (fun (fa, fb) (c, i) =>
    let lo := i - range
    let hi := min b.length (i + range + 1)
    match (List.range hi).find? (fun j => lo ≤ j && b[j]? == some c && !(fb[j]?.getD true)) with
    | some j => (fa ++ [true], fb.set j true)
    | none => (fa ++ [false], fb)) ([], List.replicate b.length false)

def matched (cs : List Char) (flags : List Bool) : List Char :=
  (cs.zip flags).filterMap fun (c, f) => if f then some c else none

/-- Jaro similarity. -/
def jaro (a b : String) : Float :=
  let a := a.toList
  let b := b.toList
  if a.isEmpty && b.isEmpty then 1.0
  else if a.isEmpty || b.isEmpty then 0.0
  else
    let (fa, fb) := jaroFlags a b
    let ma := matched a fa
    let mb := matched b fb
    let m := ma.length
    if m = 0 then 0.0
    else
      let t := ((ma.zip mb).filter fun (x, y) => x != y).length / 2
      (m.toFloat / a.length.toFloat + m.toFloat / b.length.toFloat +
        (m - t).toFloat / m.toFloat) / 3.0

/-- The long option to suggest for an unknown long name. -/
def suggestLong (name : String) : Option Opt :=
  let scored := Opt.all.filterMap fun o =>
    let s := jaro name o.long
    if s > 7.0 / 10.0 then some (s, o) else none
  match scored with
  | [] => none
  | first :: rest => some (rest.foldl (fun best c => if c.1 ≥ best.1 then c else best) first).2

end Switchboard.Cli
