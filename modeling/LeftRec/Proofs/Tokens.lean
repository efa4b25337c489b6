import LeftRec.Proofs.Answers
import LeftRec.Proofs.Erasure
import LeftRec.Proofs.Matching
import LeftRec.Proofs.Sufficiency

/-!
# Tokens — the words of JSON

What the parsers that the JSON grammar builds for its tokens take, and what they reject.  Each build
has one property of whatever it makes, from every workshop, so the parsers need not be named.
-/

namespace LeftRec

universe u v

/-! ## Builds -/

namespace Build

variable {α : Type u} {β : Type v} {good : α → Prop} {good' : β → Prop}

/-- From every workshop something with the property is made. -/
def Makes (x : Build α) (good : α → Prop) : Prop :=
  ∀ w, ∃ a next, x w = (.ok a, next) ∧ good a

theorem makes_pure {a : α} (h : good a) : (pure a : Build α).Makes good :=
  fun w => ⟨a, w, rfl, h⟩

theorem Makes.bind {x : Build α} {f : α → Build β} (hx : x.Makes good)
    (hf : ∀ a, good a → (f a).Makes good') : (x.bind f).Makes good' := by
  intro w
  obtain ⟨a, middle, hmade, ha⟩ := hx w
  obtain ⟨b, next, hnext, hb⟩ := hf a ha middle
  refine ⟨b, next, ?_, hb⟩
  rw [Build.bind, hmade]
  exact hnext

theorem makes_freshKey : freshKey.Makes fun _ => True :=
  fun _ => ⟨_, _, rfl, trivial⟩

end Build

/-! ## Parsers without memoization of their own -/

/-- Without memoized parts nothing is erased. -/
theorem Parser.All.erase_eq {S : Signature} {α : Type} {p : Parser S α} (h : p.All Parser.Bare) :
    p.erase = p := by
  induction p with
  | unit | fail | literal | token | find | all | eof | scan | custom | ref | delay => rfl
  | count what p => exact h.1.1.1.elim
  | memo kind parity key p => cases h.1.2
  | tryMap f p ih => rw [erase, ih h.2]
  | zipWith f p q ihp ihq => rw [erase, ihp h.2.1, ihq h.2.2]
  | bind p f ihp ihf => rw [erase, ihp h.2.1, funext fun a => ihf a (h.2.2 a)]
  | alt p q ihp ihq => rw [erase, ihp h.2.1, ihq h.2.2]
  | label name p ih => rw [erase, ih h.2]
  | commit p ih => rw [erase, ih h.2]
  | look p ih => rw [erase, ih h.2]
  | row n part ih => rw [erase, funext fun i => ih i (h.2 i)]
  | many p ih => rw [erase, ih h.2]

/-- Nothing bare has to be listed. -/
theorem Parser.Bare.listed {S : Signature} {α : Type} {p : Parser S α} (nodes : List (MemoNode S))
    (h : p.Bare) : p.Listed nodes := by
  intro node hsome
  rw [h.2] at hsome
  cases hsome

theorem Parser.All.imp {S : Signature} {property property' : {β : Type} → Parser S β → Prop}
    (himp : ∀ {β : Type} {q : Parser S β}, property q → property' q) {α : Type} {p : Parser S α}
    (h : p.All property) : p.All property' := by
  induction p with
  | unit | fail | literal | token | find | all | eof | scan | custom | ref | delay => exact himp h
  | count what p ih => exact ⟨himp h.1, ih h.2⟩
  | memo kind parity key p ih => exact ⟨himp h.1, ih h.2⟩
  | tryMap f p ih => exact ⟨himp h.1, ih h.2⟩
  | zipWith f p q ihp ihq => exact ⟨himp h.1, ihp h.2.1, ihq h.2.2⟩
  | bind p f ihp ihf => exact ⟨himp h.1, ihp h.2.1, fun a => ihf a (h.2.2 a)⟩
  | alt p q ihp ihq => exact ⟨himp h.1, ihp h.2.1, ihq h.2.2⟩
  | label name p ih => exact ⟨himp h.1, ih h.2⟩
  | commit p ih => exact ⟨himp h.1, ih h.2⟩
  | look p ih => exact ⟨himp h.1, ih h.2⟩
  | row n part ih => exact ⟨himp h.1, fun i => ih i (h.2 i)⟩
  | many p ih => exact ⟨himp h.1, ih h.2⟩

namespace Json.Grammar

open LeftRec.Grammar

variable {T : Type → Type} [MemoTable T] {α β : Type}

/-! ## What stands at a position -/

/-- No blank stands at the position. -/
def Clear (input : Input Char) (pos : Nat) : Prop :=
  ∀ c, (input.rest pos).head? = some c → Regex.CharSet.blank.contains c = false

/-- The word begins with another character than a blank. -/
def Visible (word : List Char) : Prop :=
  ∃ c rest, word = c :: rest ∧ Regex.CharSet.blank.contains c = false

theorem head?_of_reads {input : Input Char} {pos stop : Nat} {c : Char} {word : List Char}
    (hread : input.Reads pos (c :: word) stop) : (input.rest pos).head? = some c := by
  rw [hread.rest_eq]
  rfl

theorem Clear.of_head {input : Input Char} {pos : Nat} {c : Char}
    (hhead : (input.rest pos).head? = some c) (hc : Regex.CharSet.blank.contains c = false) :
    Clear input pos := by
  intro c' hhead'
  obtain rfl := Option.some.inj (hhead.symm.trans hhead')
  exact hc

theorem Clear.of_reads {input : Input Char} {pos stop : Nat} {word : List Char}
    (hread : input.Reads pos word stop) (hword : Visible word) : Clear input pos := by
  obtain ⟨c, rest, rfl, hc⟩ := hword
  exact .of_head (head?_of_reads hread) hc

theorem clear_extent (input : Input Char) : Clear input input.extent := by
  intro c hhead
  rw [Input.rest_extent] at hhead
  cases hhead

/-! ## Spelling -/

/-- In every grammar the parser rejects what begins with other characters. -/
structure Begins (T : Type → Type) [MemoTable T] (p : P α) (first : Char → Bool) : Prop where
  bare : p.All Parser.Bare
  rejects : ∀ (G : LeftRec.Grammar Rule) (input : Input Char) (fuel pos : Nat),
    (∀ c, (input.rest pos).head? = some c → first c = false) →
      Rejects T G input (fuel + 1) p pos

/-- In every grammar the parser takes the texts of its values where no blank stands behind them. -/
structure Spells (T : Type → Type) [MemoTable T] (p : P α) (first : Char → Bool)
    (written : List Char → α → Prop) : Prop extends Begins T p first where
  takes : ∀ (G : LeftRec.Grammar Rule) (input : Input Char) (fuel pos stop : Nat)
    (word : List Char) (a : α), written word a → input.Reads pos word stop → Clear input stop →
      Gives T G input (fuel + 1) p pos a stop

namespace Begins

variable {γ : Type} {p : P α} {q : P β} {r : P α} {first other : Char → Bool}

theorem tryMap (h : Begins T p first) (f : α → Except Fault β) :
    Begins T (.tryMap f p) first where
  bare := Parser.bare_tryMap f h.bare
  rejects G input fuel pos hhead := (h.rejects G input fuel pos hhead).tryMap f

theorem zipWith (f : α → β → γ) (h : Begins T p first) (hq : q.All Parser.Bare) :
    Begins T (.zipWith f p q) first where
  bare := Parser.bare_zipWith f h.bare hq
  rejects G input fuel pos hhead := (h.rejects G input fuel pos hhead).zipWith f q

theorem alt (h : Begins T p first) (h' : Begins T r other) :
    Begins T (p ||| r) fun c => first c || other c where
  bare := Parser.bare_alt h.bare h'.bare
  rejects G input fuel pos hhead := by
    have hfirst := h.rejects G input fuel pos fun c hc => (Bool.or_eq_false_iff.1 (hhead c hc)).1
    have hother := h'.rejects G input fuel pos fun c hc => (Bool.or_eq_false_iff.1 (hhead c hc)).2
    exact hfirst.alt hother

theorem label (h : Begins T p first) (name : String) : Begins T (.label name p) first where
  bare := ⟨⟨⟨trivial, trivial⟩, rfl⟩, h.bare⟩
  rejects G input fuel pos hhead := (h.rejects G input fuel pos hhead).label name

/-- What the first alternative does not begin with is left to the second one. -/
theorem gives_right (h : Begins T p first) {G : LeftRec.Grammar Rule} {input : Input Char}
    {fuel pos stop : Nat} {c : Char} {a : α} (hhead : (input.rest pos).head? = some c)
    (hc : first c = false) (hr : Gives T G input (fuel + 1) r pos a stop) :
    Gives T G input (fuel + 1) (p ||| r) pos a stop := by
  have hrejects := h.rejects G input fuel pos fun c' hc' => by
    rwa [← Option.some.inj (hhead.symm.trans hc')]
  exact .alt_right hrejects hr

end Begins

theorem Spells.tryMap {p : P α} {first : Char → Bool} {written : List Char → α → Prop}
    (h : Spells T p first written) (f : α → Except Fault β) :
    Spells T (.tryMap f p) first fun word b => ∃ a, written word a ∧ f a = .ok b where
  toBegins := h.toBegins.tryMap f
  takes := by
    rintro G input fuel pos stop word b ⟨a, hword, hf⟩ hread hclear
    exact (h.takes G input fuel pos stop word a hword hread hclear).tryMap hf

/-! ## Patterns -/

section Patterns

variable {E : Type} [Regex.Engine E]

/-- The parser of a pattern that is compiled. -/
def scanner (e : E) (name : String) : P PatternMatch :=
  .scan (fun text : List Char => (Regex.Engine.captures e text).map (Pattern.result text)) name

theorem bare_scanner {e : E} {name : String} : (scanner e name).All Parser.Bare :=
  ⟨⟨trivial, trivial⟩, rfl⟩

/-- A pattern that is an expression and not too large is compiled. -/
theorem makes_textPattern [Regex.LawfulEngine E] {source : String} (name : String)
    {r : Regex.Node} (hparse : Regex.parse? (Pattern.anchored source) = some r)
    (hweight : r.weight ≤ Regex.weightLimit) :
    (textPattern E source name).Makes fun p =>
      ∃ e : E, Regex.Engine.compile? (Pattern.anchored source) = some e ∧ p = scanner e name := by
  have hsome : (Regex.Engine.compile? (Pattern.anchored source) : Option E).isSome :=
    Regex.LawfulEngine.isSome_compile? hparse hweight
  obtain ⟨e, he⟩ := Option.isSome_iff_exists.1 hsome
  intro w
  refine ⟨_, w.note (.compiled name source), ?_, e, he, rfl⟩
  unfold textPattern patternBy
  rw [he]
  rfl

variable {G : LeftRec.Grammar Rule} {input : Input Char} {fuel pos stop : Nat} {e : E}
variable {word : List Char} {others : List (Option (Nat × Nat))}

theorem gives_scanner (name : String) (hread : input.Reads pos word stop)
    (h : Regex.Engine.captures e (input.rest pos) = some (some (0, word.length) :: others)) :
    Gives T G input (fuel + 1) (scanner e name) pos
      (.ofCaptures (input.rest pos) (some (0, word.length) :: others)) stop := fun _ _ =>
  yields_scan name hread (congrArg (Option.map (Pattern.result (input.rest pos))) h)

theorem rejects_scanner (name : String) (h : Regex.Engine.captures e (input.rest pos) = none) :
    Rejects T G input (fuel + 1) (scanner e name) pos := fun _ _ =>
  refuses_scan name (congrArg (Option.map (Pattern.result (input.rest pos))) h)

end Patterns

variable {E : Type} [Regex.Engine E] [Regex.LawfulEngine E]

/-! ## Blanks -/

/-- The parser takes nothing where no blank stands. -/
structure Skips (T : Type → Type) [MemoTable T] (p : P Unit) : Prop where
  bare : p.All Parser.Bare
  gives : ∀ (G : LeftRec.Grammar Rule) (input : Input Char) (fuel pos : Nat), Clear input pos →
    Gives T G input (fuel + 1) p pos () pos

theorem makes_blanks : (blanks E).Makes (Skips T) := by
  have hparse : Regex.parse? (Pattern.anchored "\\s*") = some Regex.blanksNode := rfl
  refine (makes_textPattern "whitespace" hparse (by decide)).bind ?_
  rintro _ ⟨e, he, rfl⟩
  refine Build.makes_pure ⟨Parser.bare_tryMap _ bare_scanner, fun G input fuel pos hclear => ?_⟩
  have hcaptures : Regex.Engine.captures e (input.rest pos) = some [some (0, 0)] :=
    Regex.captures_eq_some hparse he (Regex.finds_blanks_iff hclear)
  have hscanner : Gives T G input (fuel + 1) (scanner e "whitespace") pos
      (.ofCaptures (input.rest pos) [some (0, 0)]) pos :=
    gives_scanner "whitespace" (.nil pos) hcaptures
  exact hscanner.tryMap rfl

/-- Where blanks are skipped behind a parser, it takes what it took and rejects what it rejected. -/
theorem makes_token {p : P α} {first : Char → Bool} {written : List Char → α → Prop}
    (h : Spells T p first written) : (token E p).Makes fun q => Spells T q first written := by
  refine (makes_blanks (T := T)).bind fun blanks hblanks => Build.makes_pure ?_
  refine ⟨h.toBegins.zipWith (fun a _ => a) hblanks.bare, ?_⟩
  intro G input fuel pos stop word a hword hread hclear
  have hp := h.takes G input fuel pos stop word a hword hread hclear
  exact hp.zipWith (fun a _ => a) (hblanks.gives G input fuel stop hclear)

/-! ## Symbols -/

/-- A fixed text is taken for itself. -/
theorem spells_text {s : String} {c : Char} {rest : List Char} (hs : s.toList = c :: rest) :
    Spells T (Parser.text s : P String) (· == c) fun word a => word = s.toList ∧ a = s where
  bare := Parser.bare_text s
  takes := by
    rintro G input fuel pos stop _ a ⟨rfl, rfl⟩ hread - ctx state
    have hne : a.toList ≠ [] := by
      rw [hs]
      exact List.cons_ne_nil c rest
    have htext : G.Yields input (fuel + 1) (Parser.text a) [] pos ctx state
        (String.ofList a.toList) stop state := yields_text hread hne
    rwa [String.ofList_toList] at htext
  rejects G input fuel pos hhead ctx state := by
    have hstart : input.startsWith pos s.toList = false := by
      rw [hs]
      refine Input.startsWith_of_head fun hc => ?_
      have hother := hhead c hc
      rw [beq_self_eq_true] at hother
      cases hother
    exact refuses_text hstart

theorem makes_symbol {s : String} {c : Char} {rest : List Char} (hs : s.toList = c :: rest) :
    (symbol E s).Makes fun p => Spells T p (· == c) fun word a => word = s.toList ∧ a = s :=
  makes_token (spells_text hs)

theorem makes_word {s : String} {c : Char} {rest : List Char} (hs : s.toList = c :: rest)
    (v : Json) :
    (word E s v).Makes fun p => Spells T p (· == c) fun word a => word = s.toList ∧ a = v := by
  refine (makes_symbol (T := T) hs).bind fun p hp => Build.makes_pure ?_
  refine ⟨hp.toBegins.tryMap _, ?_⟩
  rintro G input fuel pos stop _ a ⟨rfl, rfl⟩
  exact (hp.tryMap fun _ => .ok a).takes G input fuel pos stop _ a ⟨s, ⟨rfl, rfl⟩, rfl⟩

/-! ## Strings and numbers -/

theorem toList_quoted (s : String) : (quoted s).toList = '"' :: (escape s.toList ++ ['"']) := by
  simp [quoted]

/-- The text between the quotes is decoded. -/
def decoded (m : PatternMatch) : String :=
  String.ofList (unescape ((m.group 1).getD "").toList)

theorem decoded_ofCaptures (s : String) (tail : List Char) :
    decoded (.ofCaptures ((quoted s).toList ++ tail) [some (0, (quoted s).toList.length),
      some (1, (escape s.toList).length + 1)]) = s := by
  have hinside : ((((quoted s).toList ++ tail).take ((escape s.toList).length + 1)).drop 1) =
      escape s.toList := by
    rw [toList_quoted, List.cons_append, List.take_succ_cons, List.drop_one, List.tail_cons,
      List.append_assoc, List.take_left]
  show String.ofList (unescape (String.ofList _).toList) = s
  rw [hinside, String.toList_ofList, unescape_escape, String.ofList_toList]

theorem spells_string (name : String) {source : String} {e : E}
    (hparse : Regex.parse? source = some Regex.quotedNode)
    (hcompile : Regex.Engine.compile? source = some e) :
    Spells T ((scanner e name).map decoded) (· == '"') fun word s =>
      word = (quoted s).toList where
  bare := Parser.bare_tryMap _ bare_scanner
  takes := by
    rintro G input fuel pos stop _ s rfl hread -
    have hlength : (quoted s).toList.length = (escape s.toList).length + 2 := by
      rw [toList_quoted, List.length_cons, List.length_append, List.length_singleton]
    have hcaptures : Regex.Engine.captures e (input.rest pos) =
        some [some (0, (quoted s).toList.length), some (1, (escape s.toList).length + 1)] := by
      rw [hlength, hread.rest_eq, toList_quoted, List.cons_append, List.append_assoc]
      exact Regex.captures_eq_some hparse hcompile
        (Regex.finds_quoted_iff s.toList (input.rest stop))
    have hgives : Gives T G input (fuel + 1) (scanner e name) pos
        (.ofCaptures (input.rest pos) [some (0, (quoted s).toList.length),
          some (1, (escape s.toList).length + 1)]) stop := gives_scanner name hread hcaptures
    refine hgives.tryMap (congrArg Except.ok ?_)
    rw [hread.rest_eq, decoded_ofCaptures]
  rejects G input fuel pos hhead := by
    have hquote : (input.rest pos).head? ≠ some '"' := fun hc =>
      absurd (hhead _ hc) (by decide)
    have hscanner : Rejects T G input (fuel + 1) (scanner e name) pos :=
      rejects_scanner name
        (Regex.captures_eq_none hparse hcompile (Regex.not_finds_quoted hquote))
    exact hscanner.tryMap _

theorem makes_string :
    (string E).Makes fun p => Spells T p (· == '"') fun word s => word = (quoted s).toList := by
  have hparse : Regex.parse? (Pattern.anchored "\"((?:[^\"\\\\]|\\\\.)*)\"") =
      some Regex.quotedNode := rfl
  refine (makes_textPattern "string" hparse (by decide)).bind ?_
  rintro _ ⟨e, he, rfl⟩
  exact makes_token (spells_string "string" hparse he)

/-- What begins otherwise is no number. -/
theorem makes_numeral :
    (numeral E).Makes fun p => Spells T p (fun c => c == '-' || c.isDigit) fun _ _ => False := by
  have hparse : Regex.parse? (Pattern.anchored numberSource) = some Regex.numeralNode := rfl
  refine (makes_textPattern "number" hparse (by decide)).bind ?_
  rintro _ ⟨e, he, rfl⟩
  refine makes_token ⟨⟨⟨⟨⟨trivial, trivial⟩, rfl⟩, bare_scanner, fun m => ?_⟩, ?_⟩,
    fun _ _ _ _ _ _ _ hno => hno.elim⟩
  · dsimp only
    split
    · exact ⟨⟨trivial, trivial⟩, rfl⟩
    · exact ⟨⟨trivial, trivial⟩, rfl⟩
  · intro G input fuel pos hhead
    have hother : ∀ c, (input.rest pos).head? = some c → c ≠ '-' ∧ c.isDigit = false := by
      intro c hc
      have hboth := hhead c hc
      rw [Bool.or_eq_false_iff] at hboth
      exact ⟨beq_eq_false_iff_ne.1 hboth.1, hboth.2⟩
    have hscanner : Rejects T G input (fuel + 1) (scanner e "number") pos :=
      rejects_scanner "number"
        (Regex.captures_eq_none hparse he (Regex.not_finds_numeral hother))
    exact hscanner.bind _

end Json.Grammar

end LeftRec
