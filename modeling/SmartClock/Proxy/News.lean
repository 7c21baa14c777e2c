import SmartClock.Proxy.Python

/-!
# The proxy's `/news`

The handler of `proxi.py`: the titles of the article objects in whatever lists the news
service's answer holds, each once.
-/

namespace SmartClock.Proxy

open Text Json

/-- What `news` reads of the request and the service, and the comparison of numbers. -/
structure NewsWorld where
  /-- `request.args.to_dict()` -/
  args : List (Str × Str)
  /-- The JSON answer of `NEWS_API` for the parameters. -/
  newsApi : List (Str × Str) → Except Str Value
  /-- Python's `in` on two numbers: the same object, so a NaN found again, or equal. -/
  numEq : Number → Number → Bool

def newsParams (w : NewsWorld) : List (Str × Str) :=
  if w.args.any fun arg => arg.1 == str "lang" then w.args else w.args ++ [(str "lang", str "english")]

/-- `possible_lists` -/
def possibleLists : Value → List (List Value)
  | .arr items => [items]
  | .obj members => members.filterMap fun
      | (_, .arr items) => some items
      | _ => none
  | _ => []

/-- The body of the loop over articles. -/
def addTitle (numEq : Number → Number → Bool) (titles : List Value) : Value → List Value
  | .obj members =>
    let title := (members.lookup (str "title")).getD .null
    if truthy title && !titles.any (equals numEq title) then titles ++ [title] else titles
  | _ => titles

/-- `titles` after both loops. -/
def collectTitles (numEq : Number → Number → Bool) (newsData : Value) : List Value :=
  (possibleLists newsData).foldl (fun titles articles => articles.foldl (addTitle numEq) titles) []

/-- The object of a 200 answer. -/
def newsObject (titles : List Value) : Value :=
  .obj [(str "count", .num (.ofNat titles.length)), (str "titles", .arr titles)]

/-- The body of the `try` of `news`. -/
def tryNews (w : NewsWorld) : Except Str Response := do
  let newsData ← w.newsApi (newsParams w)
  let titles := collectTitles w.numEq newsData
  return respond (newsObject titles) 200

/-- `news` -/
def news (w : NewsWorld) : Response :=
  match tryNews w with
  | .ok answer => answer
  | .error text => respondError text 500

end SmartClock.Proxy
