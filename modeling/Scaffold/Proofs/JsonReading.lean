import Scaffold.Json
import Scaffold.Proofs.ImportLiterals

/-!
# Reading JSON texts

A JSON text is a sequence of tokens: six marks, strings, numbers and three words, with blanks
between them. A scanner takes it apart character by character, and a parser puts the tokens
together with a stack of the lists and objects that have begun. The reader takes all texts that the
standard allows, apart from strings with half a pair of units, which stand for no text.

* `read` is the reader.
* `Leads` says that a text brings the parser from one state to another; texts can be put one after
  another.
-/

namespace Scaffold.Json

open StringLiteral (units encode hexValue?)

/-- What a JSON text stands for. A number is kept as it is written, and the members of an object in
their order. -/
inductive Node where
  | null
  | bool (b : Bool)
  | number (text : String)
  | text (s : String)
  | list (items : List Node)
  | object (members : List (String × Node))
deriving Repr, BEq, Inhabited

inductive Token where
  | openList
  | closeList
  | openObject
  | closeObject
  | colon
  | comma
  | scalar (v : Node)
deriving Repr, BEq, Inhabited

/-! ### Tokens -/

def isBlank (c : Char) : Bool :=
  c == ' ' || c == '\t' || c == '\n' || c == '\r'

def punctuation : List (Char × Token) :=
  [('[', .openList), (']', .closeList), ('\x7b', .openObject), ('\x7d', .closeObject),
    (':', .colon), (',', .comma)]

def words : List (Char × List Char × Node) :=
  [('n', ['u', 'l', 'l'], .null), ('t', ['r', 'u', 'e'], .bool true),
    ('f', ['a', 'l', 's', 'e'], .bool false)]

def shortEscapes : List (Char × Nat) :=
  [('"', 0x22), ('\\', 0x5c), ('/', 0x2f), ('b', 0x08), ('f', 0x0c), ('n', 0x0a), ('r', 0x0d),
    ('t', 0x09)]

def isHalf (u : Nat) : Bool :=
  0xd800 ≤ u && u < 0xe000

theorem isHalf_iff {u : Nat} : isHalf u = true ↔ 0xd800 ≤ u ∧ u < 0xe000 := by
  simp [isHalf]

/-- The text of a sequence of units. Two halves make one character, and a single one makes none. -/
def decode : List Nat → Option (List Char)
  | [] => some []
  | [u] => if isHalf u then none else some [Char.ofNat u]
  | u :: v :: us =>
    if !isHalf u then (Char.ofNat u :: ·) <$> decode (v :: us)
    else if u < 0xdc00 && 0xdc00 ≤ v && isHalf v then
      (Char.ofNat (0x10000 + (u - 0xd800) * 1024 + (v - 0xdc00)) :: ·) <$> decode us
    else none

/-- What is left behind one digit or more. -/
def digits? (cs : List Char) : Option (List Char) :=
  if cs.head?.any Char.isDigit then some (cs.dropWhile Char.isDigit) else none

def whole? : List Char → Option (List Char)
  | '0' :: cs => some cs
  | cs => digits? cs

def fraction? : List Char → Option (List Char)
  | '.' :: cs => digits? cs
  | cs => some cs

def exponent? : List Char → Option (List Char)
  | [] => some []
  | c :: cs =>
    if c == 'e' || c == 'E' then
      digits? (if cs.head? == some '+' || cs.head? == some '-' then cs.tail else cs)
    else some (c :: cs)

/-- A minus sign or none, a whole number without leading zeros, and what may follow it. -/
def isNumber (cs : List Char) : Bool :=
  ((whole? (if cs.head? == some '-' then cs.tail else cs)).bind fraction?).bind exponent? == some []

/-- Where a scanner is inside a string. -/
inductive Part where
  | plain
  | escape
  | digits (left value : Nat)
deriving Repr, DecidableEq, Inhabited

/-- Where a scanner is: what is left of a word, or what it has read of a number or a string. -/
inductive Mode where
  | between
  | word (rest : List Char) (v : Node)
  | number (cs : List Char)
  | string (us : List Nat) (part : Part)
deriving Repr, BEq, Inhabited

namespace Mode

def start (c : Char) : Option (List Token × Mode) :=
  if isBlank c then some ([], .between)
  else if c == '"' then some ([], .string [] .plain)
  else if c == '-' || c.isDigit then some ([], .number [c])
  else match words.lookup c with
    | some (rest, v) => some ([], .word rest v)
    | none => (punctuation.lookup c).map fun t => ([t], .between)

def finish (cs : List Char) : Option Token :=
  if isNumber cs then some (.scalar (.number (String.ofList cs))) else none

def step : Mode → Char → Option (List Token × Mode)
  | .between, c => start c
  | .word [] _, _ => none
  | .word [d] v, c => if c == d then some ([.scalar v], .between) else none
  | .word (d :: rest) v, c => if c == d then some ([], .word rest v) else none
  | .number cs, c =>
    if c.isDigit || ['-', '+', '.', 'e', 'E'].contains c then some ([], .number (cs ++ [c]))
    else do
      -- a number ends where something else begins
      let t ← finish cs
      let (ts, m) ← start c
      return (t :: ts, m)
  | .string us .plain, c =>
    if c == '"' then do
      let cs ← decode us
      return ([.scalar (.text (String.ofList cs))], .between)
    else if c == '\\' then some ([], .string us .escape)
    else if c < ' ' then none
    else some ([], .string (us ++ units c.toNat) .plain)
  | .string us .escape, c =>
    if c == 'u' then some ([], .string us (.digits 3 0))
    else (shortEscapes.lookup c).map fun u => ([], .string (us ++ [u]) .plain)
  | .string us (.digits left value), c => do
    let value := value * 16 + (← hexValue? c)
    match left with
    | 0 => return ([], .string (us ++ [value]) .plain)
    | left + 1 => return ([], .string us (.digits left value))

def close : Mode → Option (List Token)
  | .between => some []
  | .number cs => (finish cs).map ([·])
  | _ => none

end Mode

def scan : Mode → List Char → Option (List Token × Mode)
  | m, [] => some ([], m)
  | m, c :: cs => do
    let (ts, m) ← m.step c
    let (us, m) ← scan m cs
    return (ts ++ us, m)

def tokens (text : String) : Option (List Token) := do
  let (ts, m) ← scan .between text.toList
  return ts ++ (← m.close)

/-! ### Values -/

/-- A list or an object that has begun, with what it holds so far. -/
inductive Frame where
  | list (items : List Node)
  | member (members : List (String × Node)) (key : String)
deriving Repr, BEq, Inhabited

inductive Place where
  | value
  | key (members : List (String × Node))
  | colon (members : List (String × Node)) (key : String)
  | next (v : Node)
deriving Repr, BEq, Inhabited

structure State where
  place : Place
  frames : List Frame
deriving Repr, BEq, Inhabited

namespace State

def step : State → Token → Option State
  | ⟨.value, fs⟩, .scalar v => some ⟨.next v, fs⟩
  | ⟨.value, fs⟩, .openList => some ⟨.value, .list [] :: fs⟩
  -- nothing may end where a value or a key has to come, except for what is still empty
  | ⟨.value, .list [] :: fs⟩, .closeList => some ⟨.next (.list []), fs⟩
  | ⟨.value, fs⟩, .openObject => some ⟨.key [], fs⟩
  | ⟨.key [], fs⟩, .closeObject => some ⟨.next (.object []), fs⟩
  | ⟨.key members, fs⟩, .scalar (.text key) => some ⟨.colon members key, fs⟩
  | ⟨.colon members key, fs⟩, .colon => some ⟨.value, .member members key :: fs⟩
  | ⟨.next v, .list items :: fs⟩, .comma => some ⟨.value, .list (items ++ [v]) :: fs⟩
  | ⟨.next v, .list items :: fs⟩, .closeList => some ⟨.next (.list (items ++ [v])), fs⟩
  | ⟨.next v, .member members key :: fs⟩, .comma => some ⟨.key (members ++ [(key, v)]), fs⟩
  | ⟨.next v, .member members key :: fs⟩, .closeObject =>
    some ⟨.next (.object (members ++ [(key, v)])), fs⟩
  | _, _ => none

def result : State → Option Node
  | ⟨.next v, []⟩ => some v
  | _ => none

end State

def read (text : String) : Option Node := do
  let s ← (← tokens text).foldlM State.step ⟨.value, []⟩
  s.result

/-! ### Texts one after another -/

theorem scan_append (m : Mode) (cs ds : List Char) :
    scan m (cs ++ ds) = (do
      let (ts, m) ← scan m cs
      let (us, m) ← scan m ds
      return (ts ++ us, m)) := by
  induction cs generalizing m with
  | nil =>
    simp only [List.nil_append, scan]
    cases hs : scan m ds <;> simp [hs]
  | cons c cs ih =>
    simp only [List.cons_append, scan]
    cases m.step c with
    | none => rfl
    | some first =>
      simp only [Option.bind_eq_bind, Option.bind_some, ih]
      cases scan first.2 cs with
      | none => rfl
      | some second => cases hs : scan second.2 ds <;> simp [hs]

/-- The text begins and ends between tokens and is made of these. -/
def Lexes (text : String) (ts : List Token) : Prop :=
  scan .between text.toList = some (ts, .between)

theorem Lexes.append {a b : String} {ts us : List Token} (ha : Lexes a ts) (hb : Lexes b us) :
    Lexes (a ++ b) (ts ++ us) := by
  unfold Lexes at *
  rw [String.toList_append, scan_append, ha]
  simp [hb]

def Blank (text : String) : Prop :=
  ∀ c ∈ text.toList, isBlank c = true

instance (text : String) : Decidable (Blank text) :=
  decidable_of_iff (text.toList.all isBlank = true) List.all_eq_true

theorem lexes_of_blank {text : String} (h : Blank text) : Lexes text [] := by
  unfold Blank at h
  unfold Lexes
  generalize text.toList = cs at h
  induction cs with
  | nil => rfl
  | cons c cs ih =>
    have first : Mode.between.step c = some ([], .between) := if_pos (h c List.mem_cons_self)
    rw [scan, first]
    simp [ih fun d hd => h d (List.mem_cons_of_mem c hd)]

/-- The text brings the parser from one state to another. -/
def Leads (s : State) (text : String) (s' : State) : Prop :=
  ∃ ts, Lexes text ts ∧ ts.foldlM State.step s = some s'

section

variable {s s' s'' : State} {a b text : String}

theorem Leads.append (ha : Leads s a s') (hb : Leads s' b s'') : Leads s (a ++ b) s'' := by
  obtain ⟨ts, lexed, parsed⟩ := ha
  obtain ⟨us, lexed', parsed'⟩ := hb
  refine ⟨ts ++ us, lexed.append lexed', ?_⟩
  rw [List.foldlM_append, parsed]
  exact parsed'

theorem leads_of_blank (h : Blank text) (s : State) : Leads s text s :=
  ⟨[], lexes_of_blank h, rfl⟩

theorem leads_of_token {t : Token} (h : Lexes text [t]) (hs : s.step t = some s') :
    Leads s text s' :=
  ⟨[t], h, by rw [List.foldlM_cons, hs]; rfl⟩

/-- Wherever a value has to come, the text gives this one. -/
def Spells (text : String) (v : Node) : Prop :=
  ∀ frames, Leads ⟨.value, frames⟩ text ⟨.next v, frames⟩

theorem read_of_leads {v : Node} (h : Leads ⟨.value, []⟩ text ⟨.next v, []⟩) :
    read text = some v := by
  obtain ⟨ts, lexed, parsed⟩ := h
  have divided : tokens text = some ts := by
    unfold tokens
    rw [lexed]
    simp [Mode.close]
  unfold read
  rw [divided]
  simp [parsed, State.result]

example : read " [1, -2.5e+3, \"\\ud83d\\uDE00\\/\", \x7b\x7d, [null]]\n" =
    some (.list [.number "1", .number "-2.5e+3", .text "😀/", .object [], .list [.null]]) :=
  rfl

example : ["", "01", "[1,]", "[1 2]", "\x7b\"a\"\x7d", "\"\\ud800\"", "tru", "1."].all
    fun text => read text == none := by
  decide

theorem spells_of_token {v : Node} (h : Lexes text [.scalar v]) : Spells text v :=
  fun _ => leads_of_token h rfl

end

/-! ### Lists and objects -/

/-- How the parser goes through a list or an object: where it is before each piece, after it and at
the end, given the pieces so far. -/
structure Series (β : Type) where
  closing : Token
  before : List β → State
  after : List β → β → State
  final : List β → State
  comma : ∀ done b, (after done b).step .comma = some (before (done ++ [b]))
  close : ∀ done b, (after done b).step closing = some (final (done ++ [b]))
  empty : (before []).step closing = some (final [])

def Series.items (frames : List Frame) : Series Node where
  closing := .closeList
  before done := ⟨.value, .list done :: frames⟩
  after done v := ⟨.next v, .list done :: frames⟩
  final done := ⟨.next (.list done), frames⟩
  comma _ _ := rfl
  close _ _ := rfl
  empty := rfl

def Series.members (frames : List Frame) : Series (String × Node) where
  closing := .closeObject
  before done := ⟨.key done, frames⟩
  after done m := ⟨.next m.2, .member done m.1 :: frames⟩
  final done := ⟨.next (.object done), frames⟩
  comma _ _ := rfl
  close _ _ := rfl
  empty := rfl

theorem lexes_comma {gap : String} (h : Blank gap) : Lexes ("," ++ gap) [.comma] := by
  have comma : Lexes "," [.comma] := rfl
  exact comma.append (lexes_of_blank h)

/-- With commas between the pieces, the parser goes through them one after another. -/
theorem leads_series {β : Type} (r : Series β) {gap tail closing : String} (hg : Blank gap)
    (ht : Blank tail) (hc : Lexes closing [r.closing]) {pieces : List (String × β)}
    (hn : pieces ≠ [])
    (hp : ∀ p ∈ pieces, ∀ done, Leads (r.before done) p.1 (r.after done p.2)) (done : List β) :
    Leads (r.before done) (("," ++ gap).intercalate (pieces.map (·.1)) ++ (tail ++ closing))
      (r.final (done ++ pieces.map (·.2))) := by
  -- the last piece has the closing mark behind it, and each of the others a comma
  induction pieces generalizing done with
  | nil => exact absurd rfl hn
  | cons p ps ih =>
    have first := hp p List.mem_cons_self done
    cases ps with
    | nil =>
      have last := (leads_of_blank ht _).append (leads_of_token hc (r.close done p.2))
      simpa using first.append last
    | cons q qs =>
      have rest := ih (List.cons_ne_nil q qs) (fun r hr => hp r (List.mem_cons_of_mem p hr))
        (done ++ [p.2])
      have all := first.append ((leads_of_token (lexes_comma hg) (r.comma done p.2)).append rest)
      rw [List.map_cons, String.intercalate_cons_of_ne_nil (by simp)]
      simpa [String.append_assoc] using all

end Scaffold.Json
