import TableBook.Style

namespace TableBook

/-- The styles of one sheet, each kept once and known by its place. -/
structure Pool where
  styles : List Style
  /-- Place of the base, fragment, and place of the merged style. -/
  merges : List (Nat × Style × Nat)
deriving Repr

namespace Pool

/-- A pool that holds the empty style at place 0. -/
def new : Pool := ⟨[{}], []⟩

instance : Inhabited Pool := ⟨new⟩

/-- Whether one entry may stand for both styles. A style that holds a number
which is none is never shared. -/
def shares (s t : Style) : Bool := !s.hasNan && s == t

def get? (pool : Pool) (place : Nat) : Option Style := pool.styles[place]?

/-- The style at a place, the empty one at a place that is not there. -/
def style (pool : Pool) (place : Nat) : Style := (pool.get? place).getD {}

def size (pool : Pool) : Nat := pool.styles.length

/-- Whether there is nothing but the empty style. -/
def isEmpty (pool : Pool) : Bool := pool.size ≤ 1

/-- The place of a style, added at the end if it is new. -/
def intern (pool : Pool) (s : Style) : Nat × Pool :=
  match pool.styles.findIdx? (shares s) with
  | some place => (place, pool)
  | none => (pool.size, { pool with styles := pool.styles ++ [s] })

/-- What an earlier merge onto this place gave. -/
def lookUp? (pool : Pool) (base : Nat) (fragment : Style) : Option Nat :=
  pool.merges.findSome? fun (place, merged, result) =>
    if place = base ∧ shares fragment merged then some result else none

/-- The place of the style at `base` with `fragment` merged on top. A place
that is not there counts as the empty style. -/
def mergeInto (pool : Pool) (base : Nat) (fragment : Style) : Nat × Pool :=
  if fragment.isEmpty && (pool.get? base).isSome then (base, pool)
  else
    match pool.lookUp? base fragment with
    | some place => (place, pool)
    | none =>
        let (place, pool) := pool.intern ((pool.style base).merge fragment)
        (place, { pool with merges := pool.merges ++ [(base, fragment, place)] })

end Pool

end TableBook
