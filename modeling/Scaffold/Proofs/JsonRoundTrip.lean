import Scaffold.Proofs.CommandOutcome
import Scaffold.Proofs.JsonReading
import Scaffold.Proofs.PrintedRuns

/-!
# Written texts read back

What is written for a surface or a target is ASCII, and the reader finds in it the fields in their
order with the strings as they were. Blanks between tokens change nothing, so the layout does not
matter, and a dump of the exports can be read as well.
-/

namespace Scaffold

namespace Json

open StringLiteral (units encode hexValue?)

/-! ### Strings -/

theorem hexValue?_hexDigit {d : Nat} (h : d < 16) :
    hexValue? (Text.Utf8.hexDigit d) = some d := by
  have all : ∀ d < 16, hexValue? (Text.Utf8.hexDigit d) = some d := by decide
  exact all d h

theorem lt_of_mem_units {c : Char} {u : Nat} (h : u ∈ units c.toNat) : u < 0x10000 := by
  have bounds : c.toNat < 0xd800 ∨ 0xdfff < c.toNat ∧ c.toNat < 0x110000 := c.valid
  unfold units at h
  split at h
  · rw [List.mem_singleton] at h
    omega
  · simp only [List.mem_cons, List.not_mem_nil, or_false] at h
    omega

/-- A character has a short escape, or stands for itself, or is written by its units. -/
theorem escapeChar_cases (c : Char) :
    (∃ d u, (d, u) ∈ shortEscapes ∧ units c.toNat = [u] ∧ escapeChar c = ['\\', d]) ∨
    (c ≠ '"' ∧ c ≠ '\\' ∧ ' ' ≤ c ∧ c ≤ '~' ∧ escapeChar c = [c]) ∨
    escapeChar c = (units c.toNat).flatMap unicodeEscape := by
  by_cases short : c ∈ ['"', '\\', '\n', '\r', '\t', '\x08', '\x0c']
  · left
    simp only [List.mem_cons, List.not_mem_nil, or_false] at short
    rcases short with rfl | rfl | rfl | rfl | rfl | rfl | rfl
    · exact ⟨'"', 0x22, by decide, rfl, rfl⟩
    · exact ⟨'\\', 0x5c, by decide, rfl, rfl⟩
    · exact ⟨'n', 0x0a, by decide, rfl, rfl⟩
    · exact ⟨'r', 0x0d, by decide, rfl, rfl⟩
    · exact ⟨'t', 0x09, by decide, rfl, rfl⟩
    · exact ⟨'b', 0x08, by decide, rfl, rfl⟩
    · exact ⟨'f', 0x0c, by decide, rfl, rfl⟩
  · right
    simp only [List.mem_cons, List.not_mem_nil, or_false, not_or] at short
    obtain ⟨quote, backslash, feed, ret, tab, back, form⟩ := short
    by_cases printable : ' ' ≤ c ∧ c ≤ '~'
    · left
      refine ⟨quote, backslash, printable.1, printable.2, ?_⟩
      simp [escapeChar, quote, backslash, feed, ret, tab, back, form, printable]
    · right
      by_cases basic : c.toNat < 0x10000
      · simp [escapeChar, units, quote, backslash, feed, ret, tab, back, form, printable, basic]
      · simp [escapeChar, units, quote, backslash, feed, ret, tab, back, form, printable, basic]

theorem scan_shortEscape {c : Char} {u : Nat} (h : (c, u) ∈ shortEscapes) (us : List Nat) :
    scan (.string us .plain) ['\\', c] = some ([], .string (us ++ [u]) .plain) := by
  simp only [shortEscapes, List.mem_cons, List.not_mem_nil, or_false, Prod.mk.injEq] at h
  rcases h with ⟨rfl, rfl⟩ | ⟨rfl, rfl⟩ | ⟨rfl, rfl⟩ | ⟨rfl, rfl⟩ | ⟨rfl, rfl⟩ | ⟨rfl, rfl⟩ |
    ⟨rfl, rfl⟩ | ⟨rfl, rfl⟩ <;> rfl

theorem scan_unicodeEscape {n : Nat} (h : n < 0x10000) (us : List Nat) :
    scan (.string us .plain) (unicodeEscape n) = some ([], .string (us ++ [n]) .plain) := by
  have digit (d : Nat) := hexValue?_hexDigit (Nat.mod_lt d (by decide : 0 < 16))
  -- with fewer than five digits, the number is what they come to
  have value : ((n / 16 / 16 / 16 % 16 * 16 + n / 16 / 16 % 16) * 16 + n / 16 % 16) * 16 + n % 16 =
      n := by
    omega
  simp [unicodeEscape, Text.Quoted.hex, scan, Mode.step, digit, value]

theorem scan_unicodeEscapes {vs : List Nat} (h : ∀ v ∈ vs, v < 0x10000) (us : List Nat) :
    scan (.string us .plain) (vs.flatMap unicodeEscape) =
      some ([], .string (us ++ vs) .plain) := by
  induction vs generalizing us with
  | nil => simp [scan]
  | cons v vs ih =>
    rw [List.flatMap_cons, scan_append, scan_unicodeEscape (h v List.mem_cons_self)]
    simp [ih fun u hu => h u (List.mem_cons_of_mem v hu)]

/-- What a character is written as is read as its units. -/
theorem scan_escapeChar (c : Char) (us : List Nat) :
    scan (.string us .plain) (escapeChar c) =
      some ([], .string (us ++ units c.toNat) .plain) := by
  obtain ⟨d, u, hd, hu, he⟩ | ⟨quote, backslash, low, -, he⟩ | he := escapeChar_cases c
  · rw [he, hu, scan_shortEscape hd]
  · have plain : ¬c < ' ' := Char.not_lt.mpr low
    rw [he]
    simp [scan, Mode.step, quote, backslash, plain]
  · rw [he, scan_unicodeEscapes fun u hu => lt_of_mem_units hu]

theorem scan_escaped (cs : List Char) (us : List Nat) :
    scan (.string us .plain) (cs.flatMap escapeChar) =
      some ([], .string (us ++ encode cs) .plain) := by
  induction cs generalizing us with
  | nil => simp [scan, encode]
  | cons c cs ih =>
    rw [List.flatMap_cons, scan_append, scan_escapeChar]
    simp [ih, StringLiteral.encode_cons]

theorem decode_units (c : Char) (us : List Nat) :
    decode (units c.toNat ++ us) = (c :: ·) <$> decode us := by
  have bounds : c.toNat < 0xd800 ∨ 0xdfff < c.toNat ∧ c.toNat < 0x110000 := c.valid
  unfold units
  split
  · have whole : isHalf c.toNat = false := by
      rw [Bool.eq_false_iff, ne_eq, isHalf_iff]
      omega
    cases us with
    | nil => simp [decode, whole]
    | cons v us => simp [decode, whole]
  -- the two halves hold ten bits each of the number beyond the basic plane
  · have first : isHalf (0xd800 + (c.toNat - 0x10000) / 1024) = true := isHalf_iff.mpr (by omega)
    have second : isHalf (0xdc00 + (c.toNat - 0x10000) % 1024) = true := isHalf_iff.mpr (by omega)
    have low : 0xd800 + (c.toNat - 0x10000) / 1024 < 0xdc00 := by omega
    have value : 0x10000 + (0xd800 + (c.toNat - 0x10000) / 1024 - 0xd800) * 1024 +
        (0xdc00 + (c.toNat - 0x10000) % 1024 - 0xdc00) = c.toNat := by
      omega
    rw [List.cons_append, List.singleton_append, decode, first, second, value]
    simp [low]

theorem decode_encode (cs : List Char) : decode (encode cs) = some cs := by
  induction cs with
  | nil => rfl
  | cons c cs ih => simp [StringLiteral.encode_cons, decode_units, ih]

theorem lexes_quote (s : String) : Lexes (quote s) [.scalar (.text s)] := by
  have opening : scan .between ['"'] = some ([], .string [] .plain) := rfl
  have closing : scan (.string (encode s.toList) .plain) ['"'] =
      some ([.scalar (.text s)], .between) := by
    simp [scan, Mode.step, decode_encode]
  unfold Lexes quote
  rw [String.toList_ofList, List.cons_append, ← List.singleton_append, scan_append, opening]
  simp [scan_append, scan_escaped, closing]

/-! ### Brackets -/

theorem forall_mem_intercalate {P : Char → Prop} {sep : String} {texts : List String}
    (hs : ∀ c ∈ sep.toList, P c) (h : ∀ t ∈ texts, ∀ c ∈ t.toList, P c) :
    ∀ c ∈ (sep.intercalate texts).toList, P c := by
  intro c hc
  rw [String.toList_intercalate] at hc
  refine Classical.byContradiction fun hn => ?_
  refine ImportLine.not_mem_intercalate (fun h' => hn (hs c h')) (fun t ht h' => ?_) hc
  obtain ⟨text, member, rfl⟩ := List.mem_map.mp ht
  exact hn (h text member c h')

/-- How texts are laid out: on one line, or with blanks before every item, so many for each level or
those of a text. -/
inductive Layout where
  | line
  | width (n : Int)
  | blanks (text : String) (h : Blank text)

def Layout.indent : Layout → Option String
  | .line => none
  | .width n => some (String.ofList (List.replicate n.toNat ' '))
  | .blanks text _ => some text

theorem blank_append {a b : String} (ha : Blank a) (hb : Blank b) : Blank (a ++ b) := by
  intro c hc
  rw [String.toList_append, List.mem_append] at hc
  exact hc.elim (ha c) (hb c)

theorem Layout.blank_lineStart (l : Layout) (level : Nat) : Blank (lineStart l.indent level) := by
  have repeated {i : String} (hi : Blank i) : Blank (lineStart (some i) level) := by
    have nothing : Blank "" := by decide
    refine blank_append (by decide) (forall_mem_intercalate nothing fun t ht => ?_)
    rw [List.eq_of_mem_replicate ht]
    exact hi
  cases l with
  | line => exact fun _ hc => by simp [indent, lineStart] at hc
  | width n =>
    refine repeated fun c hc => ?_
    rw [String.toList_ofList] at hc
    rw [List.eq_of_mem_replicate hc]
    rfl
  | blanks text h => exact repeated h

/-- What follows a comma. -/
def Layout.gap (l : Layout) (level : Nat) : String :=
  match l.indent with
  | none => " "
  | some _ => lineStart l.indent level

theorem Layout.blank_gap (l : Layout) (level : Nat) : Blank (l.gap level) := by
  unfold gap
  split
  · decide
  · exact l.blank_lineStart level

theorem bracketed_of_ne_nil (l : Layout) (level : Nat) (opening closing : String)
    {items : List String} (hn : items ≠ []) :
    bracketed l.indent level opening closing items =
      opening ++ (lineStart l.indent (level + 1) ++ (("," ++ l.gap (level + 1)).intercalate items ++
        (lineStart l.indent level ++ closing))) := by
  have filled : items.isEmpty = false := by simpa using hn
  unfold bracketed Layout.gap
  cases l.indent <;> simp [filled, String.append_assoc]

theorem leads_bracketed {β : Type} (r : Series β) (l : Layout) (level : Nat) {s : State}
    {opening closing : String} (ho : Leads s opening (r.before []))
    (hc : Lexes closing [r.closing]) {pieces : List (String × β)}
    (hp : ∀ p ∈ pieces, ∀ done, Leads (r.before done) p.1 (r.after done p.2)) :
    Leads s (bracketed l.indent level opening closing (pieces.map (·.1)))
      (r.final (pieces.map (·.2))) := by
  by_cases hn : pieces = []
  · rw [hn]
    exact ho.append (leads_of_token hc r.empty)
  · have series := leads_series r (l.blank_gap (level + 1)) (l.blank_lineStart level) hc hn hp []
    rw [bracketed_of_ne_nil l level opening closing (by simpa using hn)]
    exact ho.append ((leads_of_blank (l.blank_lineStart (level + 1)) _).append series)

theorem spells_list (l : Layout) (level : Nat) {items : List (String × Node)}
    (h : ∀ i ∈ items, Spells i.1 i.2) :
    Spells (bracketed l.indent level "[" "]" (items.map (·.1))) (.list (items.map (·.2))) := by
  intro frames
  have opening : Lexes "[" [.openList] := rfl
  have closing : Lexes "]" [.closeList] := rfl
  exact leads_bracketed (.items frames) l level (leads_of_token opening rfl) closing
    fun i hi _ => h i hi _

/-- Wherever a key has to come, the text gives this member. -/
def SpellsMember (text : String) (m : String × Node) : Prop :=
  ∀ done frames, Leads ⟨.key done, frames⟩ text ⟨.next m.2, .member done m.1 :: frames⟩

theorem spells_member (key : String) {text : String} {v : Node} (h : Spells text v) :
    SpellsMember (quote key ++ ": " ++ text) (key, v) := by
  intro done frames
  have named : Leads ⟨.key done, frames⟩ (quote key) ⟨.colon done key, frames⟩ := by
    refine leads_of_token (lexes_quote key) ?_
    cases done <;> rfl
  have divided : Leads ⟨.colon done key, frames⟩ ": " ⟨.value, .member done key :: frames⟩ :=
    leads_of_token rfl rfl
  exact (named.append divided).append (h _)

theorem spells_object (l : Layout) (level : Nat) {members : List (String × String × Node)}
    (h : ∀ m ∈ members, SpellsMember m.1 m.2) :
    Spells (bracketed l.indent level "\x7b" "\x7d" (members.map (·.1)))
      (.object (members.map (·.2))) := by
  intro frames
  have opening : Lexes "\x7b" [.openObject] := rfl
  have closing : Lexes "\x7d" [.closeObject] := rfl
  exact leads_bracketed (.members frames) l level (leads_of_token opening rfl) closing
    fun m hm done => h m hm done frames

/-! ### ASCII -/

def Ascii (text : String) : Prop :=
  ∀ c ∈ text.toList, c.toNat < 128

instance (text : String) : Decidable (Ascii text) :=
  decidable_of_iff (text.toList.all (·.toNat < 128) = true) (by simp [Ascii])

@[simp]
theorem ascii_append (a b : String) : Ascii (a ++ b) ↔ Ascii a ∧ Ascii b := by
  simp only [Ascii, String.toList_append, List.forall_mem_append]

theorem ascii_of_blank {text : String} (h : Blank text) : Ascii text := by
  intro c hc
  have blank := h c hc
  simp only [isBlank, Bool.or_eq_true, beq_iff_eq] at blank
  rcases blank with ((rfl | rfl) | rfl) | rfl <;> decide

theorem ascii_unicodeEscape (n : Nat) : ∀ c ∈ unicodeEscape n, c.toNat < 128 := by
  have digit : ∀ d < 16, (Text.Utf8.hexDigit d).toNat < 128 := by decide
  have mod (d : Nat) := digit (d % 16) (Nat.mod_lt d (by decide))
  simp [unicodeEscape, Text.Quoted.hex, mod]

theorem ascii_escapeChar (c : Char) : ∀ d ∈ escapeChar c, d.toNat < 128 := by
  obtain ⟨d, u, hd, -, he⟩ | ⟨-, -, -, high, he⟩ | he := escapeChar_cases c
  · have marks : ∀ p ∈ shortEscapes, p.1.toNat < 128 := by decide
    simpa [he] using marks _ hd
  · have bound : c.toNat ≤ 126 := high
    rw [he, List.forall_mem_singleton]
    omega
  · intro d hd
    rw [he, List.mem_flatMap] at hd
    obtain ⟨u, -, hu⟩ := hd
    exact ascii_unicodeEscape u d hu

theorem ascii_quote (s : String) : Ascii (quote s) := by
  intro c hc
  simp only [quote, String.toList_ofList, List.cons_append, List.mem_cons, List.mem_append,
    List.mem_flatMap, List.not_mem_nil, or_false] at hc
  rcases hc with rfl | ⟨d, -, hd⟩ | rfl
  · decide
  · exact ascii_escapeChar d c hd
  · decide

theorem ascii_bracketed (l : Layout) (level : Nat) {opening closing : String} {items : List String}
    (ho : Ascii opening) (hc : Ascii closing) (h : ∀ i ∈ items, Ascii i) :
    Ascii (bracketed l.indent level opening closing items) := by
  by_cases hn : items = []
  · rw [hn]
    exact (ascii_append _ _).mpr ⟨ho, hc⟩
  · have comma : Ascii ("," ++ l.gap (level + 1)) :=
      (ascii_append _ _).mpr ⟨by decide, ascii_of_blank (l.blank_gap _)⟩
    rw [bracketed_of_ne_nil l level opening closing hn]
    simp only [ascii_append]
    exact ⟨ho, ascii_of_blank (l.blank_lineStart _), forall_mem_intercalate comma h,
      ascii_of_blank (l.blank_lineStart _), hc⟩

/-! ### Data -/

mutual

/-- What a datum is read back as, unless there are numbers or maps in it. -/
def Datum.node? : Datum → Option Node
  | .null => some .null
  | .bool b => some (.bool b)
  | .text s => some (.text s)
  | .path p => some (.text p.toString)
  | .choice _ name => some (.text name)
  | .list items => .list <$> nodes? items
  | .record _ fields => .object <$> members? fields
  | _ => none

def Datum.nodes? : List Datum → Option (List Node)
  | [] => some []
  | d :: ds => do return (← d.node?) :: (← nodes? ds)

def Datum.members? : List (String × Datum) → Option (List (String × Node))
  | [] => some []
  | (key, d) :: fields => do return (key, ← d.node?) :: (← members? fields)

end

theorem spells_quote (s : String) : Spells (quote s) (.text s) :=
  spells_of_token (lexes_quote s)

mutual

/-- Such a datum can be written, and its text is ASCII and gives it back. -/
theorem spells_render (l : Layout) (level : Nat) :
    ∀ (d : Datum) (v : Node), d.node? = some v →
      ∃ text, render l.indent level d = .ok text ∧ Ascii text ∧ Spells text v
  | .null, v, h => by
    cases h
    exact ⟨_, rfl, by decide, spells_of_token rfl⟩
  | .bool b, v, h => by
    cases h
    cases b
    · exact ⟨_, rfl, by decide, spells_of_token rfl⟩
    · exact ⟨_, rfl, by decide, spells_of_token rfl⟩
  | .text s, v, h => by
    cases h
    exact ⟨_, rfl, ascii_quote s, spells_quote s⟩
  | .path p, v, h => by
    cases h
    exact ⟨_, rfl, ascii_quote _, spells_quote _⟩
  | .choice _ name, v, h => by
    cases h
    exact ⟨_, rfl, ascii_quote name, spells_quote name⟩
  | .list items, v, h => by
    rw [Datum.node?, Option.map_eq_map, Option.map_eq_some_iff] at h
    obtain ⟨vs, hv, rfl⟩ := h
    obtain ⟨pieces, rendered, rfl, ascii, spelled⟩ := spells_renderItems l (level + 1) items vs hv
    have whole := spells_list l level spelled
    refine ⟨_, ?_, ?_, whole⟩
    · rw [render, rendered]
      rfl
    · exact ascii_bracketed l level (by decide) (by decide)
        (List.forall_mem_map.mpr ascii)
  | .record _ fields, v, h => by
    rw [Datum.node?, Option.map_eq_map, Option.map_eq_some_iff] at h
    obtain ⟨ms, hm, rfl⟩ := h
    obtain ⟨pieces, rendered, rfl, ascii, spelled⟩ := spells_renderFields l (level + 1) fields ms hm
    have whole := spells_object l level spelled
    refine ⟨_, ?_, ?_, whole⟩
    · rw [render, rendered]
      rfl
    · exact ascii_bracketed l level (by decide) (by decide)
        (List.forall_mem_map.mpr ascii)
  | .int _, v, h => nomatch h
  | .float _, v, h => nomatch h
  | .map _, v, h => nomatch h
  | .recordType, v, h => nomatch h
  | .foreign _, v, h => nomatch h

theorem spells_renderItems (l : Layout) (level : Nat) :
    ∀ (ds : List Datum) (vs : List Node), Datum.nodes? ds = some vs →
      ∃ pieces : List (String × Node),
        render.renderItems l.indent level ds = .ok (pieces.map (·.1)) ∧ pieces.map (·.2) = vs ∧
          (∀ p ∈ pieces, Ascii p.1) ∧ ∀ p ∈ pieces, Spells p.1 p.2
  | [], vs, h => by
    cases h
    exact ⟨[], rfl, rfl, nofun, nofun⟩
  | d :: ds, vs, h => by
    obtain ⟨v, hv, h⟩ := Option.bind_eq_some_iff.mp h
    obtain ⟨rest, hr, h⟩ := Option.bind_eq_some_iff.mp h
    cases h
    obtain ⟨text, written, ascii, spelled⟩ := spells_render l level d v hv
    obtain ⟨pieces, rendered, rfl, asciis, spelleds⟩ := spells_renderItems l level ds rest hr
    refine ⟨(text, v) :: pieces, ?_, rfl, List.forall_mem_cons.mpr ⟨ascii, asciis⟩,
      List.forall_mem_cons.mpr ⟨spelled, spelleds⟩⟩
    rw [render.renderItems, written, rendered]
    rfl

theorem spells_renderFields (l : Layout) (level : Nat) :
    ∀ (fields : List (String × Datum)) (ms : List (String × Node)),
      Datum.members? fields = some ms →
      ∃ pieces : List (String × String × Node),
        render.renderFields l.indent level fields = .ok (pieces.map (·.1)) ∧
          pieces.map (·.2) = ms ∧ (∀ p ∈ pieces, Ascii p.1) ∧ ∀ p ∈ pieces, SpellsMember p.1 p.2
  | [], ms, h => by
    cases h
    exact ⟨[], rfl, rfl, nofun, nofun⟩
  | (key, d) :: fields, ms, h => by
    obtain ⟨v, hv, h⟩ := Option.bind_eq_some_iff.mp h
    obtain ⟨rest, hr, h⟩ := Option.bind_eq_some_iff.mp h
    cases h
    obtain ⟨text, written, ascii, spelled⟩ := spells_render l level d v hv
    obtain ⟨pieces, rendered, rfl, asciis, spelleds⟩ := spells_renderFields l level fields rest hr
    have named : Ascii (quote key ++ ": " ++ text) := by
      rw [ascii_append, ascii_append]
      exact ⟨⟨ascii_quote key, by decide⟩, ascii⟩
    refine ⟨(quote key ++ ": " ++ text, key, v) :: pieces, ?_, rfl,
      List.forall_mem_cons.mpr ⟨named, asciis⟩,
      List.forall_mem_cons.mpr ⟨spells_member key spelled, spelleds⟩⟩
    rw [render.renderFields, written, rendered]
    rfl

end

/-- What is written for a datum without numbers and maps gives it back, whatever the layout. -/
theorem read_write (l : Layout) {d : Datum} {v : Node} (h : d.node? = some v) :
    ∃ text, write l.indent d = .ok text ∧ Ascii text ∧ read text = some v ∧
      read (text ++ "\n") = some v := by
  obtain ⟨text, written, ascii, spelled⟩ := spells_render l 0 d v h
  have ended := (spelled []).append (leads_of_blank (by decide : Blank "\n") _)
  exact ⟨text, written, ascii, read_of_leads (spelled []), read_of_leads ended⟩

/-! ### Surfaces, targets and dumps -/

def Node.ofSurface (s : Export.Surface) : Node :=
  .object [("named_exports", .list (s.names.map .text)), ("has_default_export", .bool s.hasDefault)]

def Node.ofTarget (t : Target) : Node :=
  .object [("base_name", .text t.binding), ("module_specifier", .text t.specifier),
    ("directory", .text t.folder.toString), ("path", .text t.file.toString)]

theorem nodes?_texts (names : List String) :
    Datum.nodes? (names.map .text) = some (names.map .text) := by
  induction names with
  | nil => rfl
  | cons name names ih =>
    rw [List.map_cons, Datum.nodes?, ih]
    rfl

theorem node?_ofSurface (s : Export.Surface) : (ofSurface s).node? = some (.ofSurface s) := by
  simp [ofSurface, Datum.node?, Datum.members?, nodes?_texts, Node.ofSurface]

theorem node?_ofTarget (t : Target) : (ofTarget t).node? = some (.ofTarget t) :=
  rfl

end Json

namespace Command

open Generation (exportsOf)
open Json (Ascii)

variable {arguments : List String} {o : Options} {language : Language} {w : World}

/-- The run prints a text, and the surface can be read from it. -/
def Dumps (arguments : List String) (w : World) (surface : Export.Surface) : Prop :=
  ∃ text, Prints arguments w text ∧ Ascii text ∧ Json.read text = some (.ofSurface surface)

/-- What is listed gives the surface back, with the line end behind it. -/
theorem read_surfaceText (surface : Export.Surface) :
    Ascii (Json.surfaceText (some "  ") surface ++ "\n") ∧
      Json.read (Json.surfaceText (some "  ") surface ++ "\n") = some (.ofSurface surface) := by
  obtain ⟨text, written, ascii, -, ended⟩ :=
    Json.read_write (.width 2) (Json.node?_ofSurface surface)
  have same : Except.ok (Json.surfaceText (some "  ") surface) = Except.ok text :=
    (Json.write_ofSurface (some "  ") surface).symm.trans written
  cases same
  exact ⟨(Json.ascii_append _ _).mpr ⟨ascii, Json.ascii_of_blank (by decide)⟩, ended⟩

theorem dumps_of_surface {settings : Settings} {surface : Export.Surface}
    (hp : Options.parse arguments = .ok o) (hm : o.mode = .dumpExports)
    (hf : LeadsToFile w o.source) (hl : Language.ofPath o.source = .ok language)
    (hs : ((Configuration.load o.source language o.config.join).run w).1 = .ok settings)
    (hx : ((exportsOf o.source (.ofPath o.source)).run w).1 = .ok surface) :
    Dumps arguments w surface := by
  have load := Configuration.load_looks o.source language o.config.join
  have dumped := (run_of_exhibit hp (work_dumpExports hm language)
    (load.bind fun _ => listing_looks o.source) hf hl).1
  rw [fst_run_bind_of_found load hs, fst_run_listing, hx] at dumped
  exact ⟨_, dumped _ rfl, read_surfaceText surface⟩

/-- A dump that returns has found a surface. -/
theorem surface_of_returned (hp : Options.parse arguments = .ok o) (hm : o.mode = .dumpExports)
    (hr : ((run arguments).run w).1 = .ok .returned) :
    ∃ surface, ((exportsOf o.source (.ofPath o.source)).run w).1 = .ok surface ∧
      Dumps arguments w surface := by
  obtain ⟨v, -, -, stopped⟩ | ⟨language, v, hf, hl, -, -⟩ := execute_cases o w
  · rw [run_eq_execute hp, stopped] at hr
    cases hr
  have load := Configuration.load_looks o.source language o.config.join
  have looks := load.bind fun _ => listing_looks o.source
  -- a failure on the way would have been reported, and then the run would not have returned
  have met (e : Failure) (he : (((Configuration.load o.source language o.config.join) >>=
      fun _ => listing o.source).run w).1 = .error e) : False := by
    have ended := ((run_of_exhibit hp (work_dumpExports hm language) looks hf hl).2 e he).1
    exact run_report_of_unexpected (looks.of_run_error he) w (ended.symm.trans hr)
  rw [fst_run_bind_of_looks load, fst_run_listing] at met
  cases hs : ((Configuration.load o.source language o.config.join).run w).1 with
  | error e =>
    rw [hs] at met
    exact (met e rfl).elim
  | ok settings =>
    cases hx : ((exportsOf o.source (.ofPath o.source)).run w).1 with
    | error e =>
      rw [hs, hx] at met
      exact (met e rfl).elim
    | ok surface => exact ⟨surface, rfl, dumps_of_surface hp hm hf hl hs hx⟩

/-- What is written for a surface or a target is ASCII in every layout, and the fields are read from
it in their order with the same texts. A dump of the exports prints a text from which the surface is
read. -/
theorem written_json_reads_back :
    (∀ (l : Json.Layout) (s : Export.Surface), ∃ text,
      Json.write l.indent (Json.ofSurface s) = .ok text ∧ Ascii text ∧
        Json.read text = some (.ofSurface s)) ∧
    (∀ (l : Json.Layout) (t : Target), ∃ text,
      Json.write l.indent (Json.ofTarget t) = .ok text ∧ Ascii text ∧
        Json.read text = some (.ofTarget t)) ∧
    (∀ (arguments : List String) (o : Options) (w : World), Options.parse arguments = .ok o →
      o.mode = .dumpExports →
      (∀ language settings surface, LeadsToFile w o.source →
        Language.ofPath o.source = .ok language →
        ((Configuration.load o.source language o.config.join).run w).1 = .ok settings →
        ((exportsOf o.source (.ofPath o.source)).run w).1 = .ok surface →
        Dumps arguments w surface) ∧
      (((run arguments).run w).1 = .ok .returned →
        ∃ surface, ((exportsOf o.source (.ofPath o.source)).run w).1 = .ok surface ∧
          Dumps arguments w surface)) := by
  refine ⟨fun l s => ?_, fun l t => ?_, fun arguments o w hp hm => ⟨?_, ?_⟩⟩
  · obtain ⟨text, written, ascii, back, -⟩ := Json.read_write l (Json.node?_ofSurface s)
    exact ⟨text, written, ascii, back⟩
  · obtain ⟨text, written, ascii, back, -⟩ := Json.read_write l (Json.node?_ofTarget t)
    exact ⟨text, written, ascii, back⟩
  · intro language settings surface hf hl hs hx
    exact dumps_of_surface hp hm hf hl hs hx
  · exact surface_of_returned hp hm

theorem mutedSource_dumped :
    Dumps ["m.jsx", "--dump-exports"] mutedSource {} ∧
      ∃ surface, ((exportsOf (.ofString "m.jsx") .tsx).run mutedSource).1 = .ok surface ∧
        Dumps ["m.jsx", "--dump-exports"] mutedSource surface := by
  obtain ⟨-, -, dumps⟩ := written_json_reads_back
  obtain ⟨printed, returned⟩ := dumps ["m.jsx", "--dump-exports"]
    { source := .ofString "m.jsx", mode := .dumpExports } mutedSource rfl rfl
  have there : LeadsToFile mutedSource (.ofString "m.jsx") :=
    ⟨by decide +kernel, [], by decide +kernel⟩
  have found : ((exportsOf (.ofString "m.jsx") .tsx).run mutedSource).1.toOption = some {} := by
    decide +kernel
  have dumped : Dumps ["m.jsx", "--dump-exports"] mutedSource {} :=
    printed .javascript {} _ there rfl rfl (eq_ok_of_toOption found)
  have ended : ((run ["m.jsx", "--dump-exports"]).run mutedSource).1 = .ok .returned := by
    obtain ⟨text, ⟨ended, -⟩, -⟩ := dumped
    exact ended
  exact ⟨dumped, returned ended⟩

end Command

end Scaffold
