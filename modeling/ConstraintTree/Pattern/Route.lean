import ConstraintTree.Pattern.Page
import ConstraintTree.Pattern.Regular

/-!
The search of a page for an expression. All places are followed at once through the expression, from
where a part of it may begin to where it may end.
-/
namespace ConstraintTree.Pattern

/-- An expression on a page, with the places where it may go on. -/
inductive Route where
  | stay
  | check (allowed : Thunk Places)
  | word (chars : List Char)
  | step (allowed : Thunk Places)
  | row (legs : List Route)
  | fork (branches : List Route)
  | rounds (least : Nat) (most : Option Nat) (round : Route)

/-- What has been followed of a route. A loop goes on only from places that it has not seen. -/
inductive Trail where
  | fresh
  | legs (trails : List Trail)
  | loop (seen : Places) (round : Trail)
  deriving Inhabited

def Trail.parts : Trail → List Trail
  | .legs trails => trails
  | _ => []

namespace Regular

mutual

def route (page : Page) : Regular → Route
  | .empty => .stay
  | .word chars => .word chars
  | .oneOf _ set => .step (Thunk.mk fun _ => page.inFrontOfAny set)
  | .look condition => .check (Thunk.mk fun _ => page.satisfying condition)
  | .sequence items => .row (routesOnto page [] items).reverse
  | .choice branches => .fork (routesOnto page [] branches).reverse
  | .repeated least most _ body => .rounds least most (body.route page)
  | .group body => body.route page

def routesOnto (page : Page) (done : List Route) : List Regular → List Route
  | [] => done
  | item :: rest => routesOnto page (item.route page :: done) rest

end

end Regular

namespace Route

def afterWord (page : Page) : List Char → Places → Places
  | [], places => places
  | char :: rest, places =>
    if places = 0 then 0 else afterWord page rest ((places &&& page.inFrontOf char) <<< 1)

/-- The places behind any number of characters in allowed places. A carry runs through each row of
such places, up to the first one behind it. -/
def glide (allowed places : Places) : Places :=
  (((places &&& allowed) + allowed) ^^^ allowed) ||| places

abbrev Round := Trail → Places → Places × Trail

/-- The places behind so many rounds, with the trails of the rounds, the last one first, and the
trails that are left. -/
def exactly (follow : Round) (done : List Trail) :
    Nat → List Trail → Places → Places × List Trail × List Trail
  | 0, trails, places => (places, done, trails)
  | count + 1, trails, places =>
    if places = 0 then (0, done, trails)
    else
      let (next, trail) := follow (trails.headD .fresh) places
      exactly follow (trail :: done) count trails.tail next

/-- The places that are reached, and those behind at most so many rounds. A place that was reached
in fewer rounds need not be followed again. -/
def atMost (follow : Round) (reached : Places) (done : List Trail) :
    Nat → List Trail → Places → Places × List Trail × List Trail
  | 0, trails, _ => (reached, done, trails)
  | count + 1, trails, places =>
    if places = 0 then (reached, done, trails)
    else
      let (next, trail) := follow (trails.headD .fresh) places
      let new := Places.without next reached
      atMost follow (reached ||| new) (trail :: done) count trails.tail new

/-- The places that are reached, and those behind at least one round from places that have not been
seen. The number of steps is bounded; each of them sees another place. -/
def atLeastOnce (follow : Round) (reached seen : Places) : Nat → Trail → Places → Places × Trail
  | 0, trail, _ => (reached, .loop seen trail)
  | steps + 1, trail, places =>
    let new := Places.without places seen
    if new = 0 then (reached, .loop seen trail)
    else
      let (next, trail) := follow trail new
      atLeastOnce follow (reached ||| next) (seen ||| new) steps trail next

def seenBy : Trail → Places × Trail
  | .loop seen round => (seen, round)
  | _ => (0, .fresh)

/-- The places in front of the only character that a route takes. -/
def allowed? : Route → Option (Thunk Places)
  | .step allowed => some allowed
  | _ => none

/-- The places behind at least one round, which may take one out of the allowed characters. -/
def loop (page : Page) (allowed : Option (Thunk Places)) (follow : Round) (trail : Trail)
    (places : Places) : Places × Trail :=
  match allowed with
  | some allowed => (glide allowed.get ((places &&& allowed.get) <<< 1), trail)
  | none =>
    let (seen, inner) := seenBy trail
    atLeastOnce follow 0 seen (page.size + 1) inner places

mutual

/-- The places to which a route leads from given ones. Those to which it has led before, while the
trail was left, may be missing. -/
def follow (page : Page) : Route → Trail → Places → Places × Trail
  | .stay, trail, places => (places, trail)
  | .check allowed, trail, places => (places &&& allowed.get, trail)
  | .word chars, trail, places => (afterWord page chars places, trail)
  | .step allowed, trail, places => ((places &&& allowed.get) <<< 1, trail)
  | .row legs, trail, places =>
    let (places, trails) := followRow page [] legs trail.parts places
    (places, .legs trails)
  | .fork branches, trail, places =>
    let (reached, trails) := followEach page places 0 [] branches trail.parts
    (reached, .legs trails)
  | .rounds least most round, trail, places =>
    let follow := round.follow page
    let limit := page.longest + 1
    match most with
    | some most =>
      let (places, done, trails) := exactly follow [] (min least limit) trail.parts places
      let (reached, done, trails) :=
        atMost follow places done (min (most - least) limit) trails places
      (reached, .legs (done.reverse ++ trails))
    | none =>
      let (places, done, trails) := exactly follow [] (min (least - 1) limit) trail.parts places
      if places = 0 then (0, .legs (done.reverse ++ trails))
      else
        let (reached, loop) := loop page round.allowed? follow (trails.headD .fresh) places
        (if least = 0 then reached ||| places else reached, .legs (done.reverse ++ [loop]))

def followRow (page : Page) (done : List Trail) :
    List Route → List Trail → Places → Places × List Trail
  | [], _, places => (places, done.reverse)
  | leg :: legs, trails, places =>
    if places = 0 then (0, done.reverse ++ trails)
    else
      let (next, trail) := leg.follow page (trails.headD .fresh) places
      followRow page (trail :: done) legs trails.tail next

def followEach (page : Page) (places reached : Places) (done : List Trail) :
    List Route → List Trail → Places × List Trail
  | [], _ => (reached, done.reverse)
  | branch :: branches, trails =>
    let (next, trail) := branch.follow page (trails.headD .fresh) places
    followEach page places (reached ||| next) (trail :: done) branches trails.tail

end

end Route

/-- Which of several texts have a part that matches. -/
def Regular.findIn (sought : Regular) (texts : List String) : List Bool :=
  let page := Page.ofTexts texts
  page.textsAt ((sought.route page).follow page .fresh page.all).1

end ConstraintTree.Pattern
