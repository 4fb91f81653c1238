import DocAccessors.Text.Basic

/-!
# Paths

Slash-separated paths as texts: the shortest equivalent path, joining, the directory and the last element.
-/

namespace DocAccessors.Path

def isAbs (p : Text) : Bool := p.head? == some 47

/-- The elements left after dropping empty ones and `.`, and resolving `..`; `stack` holds those before,
last first. `rooted` paths do not go above the root. -/
def reduce (rooted : Bool) : List Text → List Text → List Text
  | stack, [] => stack.reverse
  | stack, e :: es =>
    if e.isEmpty || e == text "." then reduce rooted stack es
    else if e == text ".." then
      match stack with
      | [] => reduce rooted (if rooted then [] else [e]) es
      | top :: rest => if top == text ".." then reduce rooted (e :: top :: rest) es else reduce rooted rest es
    else reduce rooted (e :: stack) es

/-- The shortest path naming the same place. -/
def clean (p : Text) : Text :=
  let body := Text.join "/" (reduce (isAbs p) [] (Text.split 47 p))
  if isAbs p then text "/" ++ body
  else if body.isEmpty then "." else body

/-- Paths one below the other; empty ones are left out. -/
def join (ps : List Text) : Text :=
  match ps.filter (!·.isEmpty) with
  | [] => []
  | ps => clean (Text.join "/" ps)

/-- The part of a path up to its last slash, that slash included. -/
def dirPart (p : Text) : Text :=
  match Text.lastIndexOf? p 47 with
  | some i => p.take (i + 1)
  | none => []

def dir (p : Text) : Text := clean (dirPart p)

/-- The last element of a path. -/
def base (p : Text) : Text :=
  let q := Text.dropEndWhile (· == 47) p
  if q.isEmpty then (if p.isEmpty then "." else "/")
  else match Text.lastIndexOf? q 47 with
    | some i => q.drop (i + 1)
    | none => q

/-- The suffix of the last element from its last dot on. -/
def ext (p : Text) : Text :=
  let last := match Text.lastIndexOf? p 47 with
    | some i => p.drop (i + 1)
    | none => p
  match Text.lastIndexOf? last 46 with
  | some i => last.drop i
  | none => []

def elements (p : Text) : List Text := (Text.split 47 p).filter fun e => !e.isEmpty && e != text "."

/-- The path of `target` seen from `base`; `none` when one is absolute and the other is not, or when `base`
goes up from an unknown place. -/
def rel? (base target : Text) : Option Text :=
  let b := clean base
  let t := clean target
  if t == b then some "."
  else if isAbs b != isAbs t then none
  else
    let bs := elements b
    let ts := elements t
    let shared := (bs.zip ts).takeWhile (fun (x, y) => x == y) |>.length
    let up := bs.drop shared
    if up.head? == some (text "..") then none
    else some (Text.join "/" (up.map (fun _ => text "..") ++ ts.drop shared))

end DocAccessors.Path
