import LeftRec.Memo.Hashed
import LeftRec.Proofs.Tokens
import LeftRec.Proofs.Transparency

/-!
# Inversion — reading back what was rendered

A JSON value without numbers is read back from its compact text.  The rule of the grammar is
followed without its memoization, by induction on the value: once the values inside a value are
known to be read back wherever they stand, so is the value itself.  Every alternative that comes
before the right one, and the round behind the last item of a list, is told off by the first
character that it meets, before anything has been committed to.
-/

namespace LeftRec

namespace Json.Grammar

open LeftRec.Grammar

variable {T : Type → Type} [MemoTable T] {E : Type} [Regex.Engine E] [Regex.LawfulEngine E]

/-! ## Texts -/

theorem visible_quoted (s : String) (more : List Char) : Visible ((quoted s).toList ++ more) := by
  rw [toList_quoted]
  exact ⟨'"', _, rfl, rfl⟩

theorem toList_array (items : List Json) :
    (compact (.array items)).toList =
      '[' :: (",".toList.intercalate (items.map fun item => item.compact.toList) ++
        "]".toList) := by
  rw [compact, compacts_eq]
  simp [String.toList_intercalate, Function.comp_def]

theorem toList_object (members : List (String × Json)) :
    (compact (.object members)).toList =
      '\x7b' :: (",".toList.intercalate (members.map fun member => (memberCompact member).toList) ++
        "\x7d".toList) := by
  rw [compact, memberCompacts_eq]
  simp [String.toList_intercalate, Function.comp_def]

/-- No text of a value begins with a blank. -/
theorem visible_compact {j : Json} (h : j.Simple) : Visible j.compact.toList := by
  cases h with
  | null => exact ⟨'n', _, rfl, rfl⟩
  | bool b =>
      cases b with
      | true => exact ⟨'t', _, rfl, rfl⟩
      | false => exact ⟨'f', _, rfl, rfl⟩
  | string s =>
      have hquoted := visible_quoted s []
      rwa [List.append_nil] at hquoted
  | array _ =>
      rw [toList_array]
      exact ⟨'[', _, rfl, rfl⟩
  | object _ _ =>
      rw [toList_object]
      exact ⟨'\x7b', _, rfl, rfl⟩

theorem visible_memberCompact (member : String × Json) :
    Visible (memberCompact member).toList := by
  rw [memberCompact, String.toList_append, String.toList_append, List.append_assoc]
  exact visible_quoted member.1 _

/-! ## Lists -/

/-- Between two positions the parser takes the texts of some items for their values, and rejects the
closing bracket. -/
structure Contents (T : Type → Type) [MemoTable T] (G : LeftRec.Grammar Rule) (input : Input Char)
    (fuel : Nat) {α ξ : Type} (item : P α) (closing : Char) (start stop : Nat)
    (text : ξ → List Char) (value : ξ → α) (xs : List ξ) : Prop where
  visible : ∀ x ∈ xs, Visible (text x)
  takes : ∀ x ∈ xs, ∀ i j, start ≤ i → j < stop → input.Reads i (text x) j → Clear input j →
    Gives T G input fuel item i (value x) j
  rejects : ∀ i, (input.rest i).head? = some closing → Rejects T G input fuel item i

/-- The parser takes items with commas between them and the closing bracket. -/
def TakesItems (T : Type → Type) [MemoTable T] {α : Type} (p : P (List α)) (item : P α)
    (closing : Char) : Prop :=
  ∀ (G : LeftRec.Grammar Rule) (input : Input Char) (fuel pos stop : Nat) {ξ : Type}
    (text : ξ → List Char) (value : ξ → α) (xs : List ξ),
    input.Reads pos (",".toList.intercalate (xs.map text) ++ [closing]) stop → Clear input stop →
      Contents T G input (fuel + 1) item closing pos stop text value xs → stop ≤ fuel + pos →
        Gives T G input (fuel + 1) p pos (xs.map value) stop

section Lists

variable {α ξ : Type} {G : LeftRec.Grammar Rule} {input : Input Char} {fuel pos stop : Nat}
variable {item : P α} {inner : P (List α)} {opening comma close : P String} {c d : Char}
variable {s : String}
variable {text : ξ → List Char} {value : ξ → α} {xs : List ξ}

theorem visible_list (hvisible : ∀ x ∈ xs, Visible (text x))
    (hblank : Regex.CharSet.blank.contains c = false) :
    Visible (",".toList.intercalate (xs.map text) ++ [c]) := by
  cases xs with
  | nil => exact ⟨c, [], rfl, hblank⟩
  | cons x rest =>
      obtain ⟨c', more, hword, hc'⟩ := hvisible x List.mem_cons_self
      cases rest with
      | nil => exact ⟨c', more ++ [c], by simp [hword], hc'⟩
      | cons y rest =>
          have hlist : ",".toList.intercalate ((x :: y :: rest).map text) ++ [c] = c' ::
              (more ++ ",".toList ++ ",".toList.intercalate ((y :: rest).map text) ++ [c]) := by
            simp [List.intercalate_cons_cons, hword]
          exact ⟨c', _, hlist, hc'⟩

/-- A comma stands between two items, the bracket behind the last one. -/
theorem takesItems_of_spells
    (hcomma : Spells T comma (· == ',') fun word a => word = [','] ∧ a = ",")
    (hclose : Spells T close (· == c) fun word a => word = [c] ∧ a = s) (hother : c ≠ ',')
    (hblank : Regex.CharSet.blank.contains c = false) :
    TakesItems T ((item.sepBy comma).skip close) item c := by
  intro G input fuel pos stop ξ text value xs hread hclear hcontents hfuel
  obtain ⟨middle, hlist, hbracket⟩ := hread.split
  have hmoved : middle < stop := hbracket.lt (List.cons_ne_nil c [])
  have hhead : (input.rest middle).head? = some c := head?_of_reads hbracket
  have hmiddle : Clear input middle := .of_head hhead hblank
  have hnone : Rejects T G input (fuel + 1) comma middle := by
    refine hcomma.rejects G input fuel middle fun c' hc' => ?_
    obtain rfl := Option.some.inj (hhead.symm.trans hc')
    exact beq_eq_false_iff_ne.2 hother
  -- Behind an item stands a comma or the closing bracket, and neither is a blank.
  have hseries : Series T G input (fuel + 1) (item.separated comma) pos (xs.map value) middle := by
    refine series_of_intercalate hlist (fun x hx => ?_) (fun x hx i j hi hj hitem hbehind => ?_)
      (fun x hx i j k hbetween hnext => ?_) (.inl ⟨rfl, hnone⟩) (hcontents.rejects middle hhead)
    · obtain ⟨c', rest, hword, -⟩ := hcontents.visible x hx
      rw [hword]
      exact List.cons_ne_nil c' rest
    · refine hcontents.takes x hx i j hi (by omega) hitem ?_
      rcases hbehind with rfl | ⟨k, hbetween⟩
      · exact hmiddle
      · exact .of_reads hbetween ⟨',', [], rfl, rfl⟩
    · have hj : Clear input j := .of_reads hnext (hcontents.visible x hx)
      exact ⟨",", hcomma.takes G input fuel i j _ _ ⟨rfl, rfl⟩ hbetween hj⟩
  have hlength := hseries.add_length_le
  have hitems : Gives T G input (fuel + 1) (item.sepBy comma) pos (xs.map value) middle :=
    hseries.many (by omega)
  have hclosed := hclose.takes G input fuel middle stop _ _ ⟨rfl, rfl⟩ hbracket hclear
  exact hitems.zipWith (fun a _ => a) hclosed

theorem makes_items (item : P α) (hs : s.toList = [c]) (hother : c ≠ ',')
    (hblank : Regex.CharSet.blank.contains c = false) :
    (items E item s).Makes fun p =>
      (item.All Parser.Bare → p.All Parser.Bare) ∧ TakesItems T p item c := by
  refine (makes_symbol (T := T) (s := ",") rfl).bind fun comma hcomma => ?_
  refine (makes_symbol (T := T) hs).bind fun close hclose => Build.makes_pure ⟨fun hitem => ?_, ?_⟩
  · have hseparated : (item.separated comma).All Parser.Bare :=
      Parser.bare_zipWith _ hitem
        (Parser.bare_alt (Parser.bare_tryMap _ hcomma.bare) ⟨⟨trivial, trivial⟩, rfl⟩)
    have hmany : (item.sepBy comma).All Parser.Bare := ⟨⟨⟨trivial, trivial⟩, rfl⟩, hseparated⟩
    exact ⟨⟨⟨trivial, trivial⟩, rfl⟩, Parser.bare_zipWith _ hmany hclose.bare⟩
  · rw [hs] at hclose
    intro G input fuel pos stop ξ text value xs hread hclear hcontents hfuel
    exact (takesItems_of_spells hcomma hclose hother hblank G input fuel pos stop text value xs
      hread hclear hcontents hfuel).commit

/-- What stands between two brackets is taken, and the brackets with it. -/
theorem gives_bracketed (hopening : Spells T opening (· == d) fun word a => word = [d] ∧ a = s)
    (hinner : TakesItems T inner item c) (hblank : Regex.CharSet.blank.contains c = false)
    (hread : input.Reads pos (d :: (",".toList.intercalate (xs.map text) ++ [c])) stop)
    (hclear : Clear input stop)
    (hcontents : ∀ start, pos < start → pos + 2 ≤ stop →
      Contents T G input (fuel + 1) item c start stop text value xs)
    (hfuel : stop ≤ fuel + pos) :
    Gives T G input (fuel + 1) (opening.next inner) pos (xs.map value) stop := by
  obtain ⟨start, hopen, hinside⟩ := hread.split_cons
  have hmoved := hopen.lt (List.cons_ne_nil d [])
  have hlong := hinside.add_length_le
  rw [List.length_append, List.length_singleton] at hlong
  have hcontents := hcontents start hmoved (by omega)
  have hstart : Clear input start := .of_reads hinside (visible_list hcontents.visible hblank)
  have hopened := hopening.takes G input fuel pos start _ _ ⟨rfl, rfl⟩ hopen hstart
  have hlist := hinner G input fuel start stop text value xs hinside hclear hcontents (by omega)
  exact hopened.zipWith (fun _ b => b) hlist

end Lists

/-! ## Values inside values -/

/-- Wherever the text of the value stands, the rule takes it for the value in order. -/
def Known (T : Type → Type) [MemoTable T] (G : LeftRec.Grammar Rule) (j : Json) : Prop :=
  ∀ (input : Input Char) (fuel pos stop : Nat), input.Reads pos j.compact.toList stop →
    Clear input stop → stop + 2 ≤ fuel + pos → Gives T G input fuel value pos j.sorted stop

/-- What a value may begin with. -/
def opens (c : Char) : Bool :=
  c == 'n' || c == 't' || c == 'f' || (c == '-' || c.isDigit) || c == '"' || c == '[' || c == '{'

/-- The rule rejects what begins otherwise than a value. -/
def Opens (T : Type → Type) [MemoTable T] (G : LeftRec.Grammar Rule) : Prop :=
  ∀ (input : Input Char) (fuel pos : Nat),
    (∀ c, (input.rest pos).head? = some c → opens c = false) →
      Rejects T G input (fuel + 2) value pos

theorem bare_value : value.All Parser.Bare := Parser.bare_ref (S := Rule) ()

/-! ## Arrays -/

theorem makes_array :
    (array E).Makes fun p => Begins T p (· == '[') ∧
      ∀ (G : LeftRec.Grammar Rule) (input : Input Char) (fuel pos stop : Nat) (items : List Json),
        Opens T G → (∀ item ∈ items, item.Simple ∧ Known T G item) →
        input.Reads pos (compact (.array items)).toList stop → Clear input stop →
        stop ≤ fuel + pos → Gives T G input (fuel + 1) p pos (sorted (.array items)) stop := by
  refine (makes_symbol (T := T) (s := "[") rfl).bind fun opening hopening => ?_
  refine (makes_items (T := T) (s := "]") value rfl (by decide) rfl).bind fun inner hinner => ?_
  refine Build.makes_pure ⟨?_, ?_⟩
  · exact (hopening.toBegins.zipWith (fun _ b => b) (hinner.1 bare_value)).tryMap _
  · intro G input fuel pos stop items hopens hitems hread hclear hfuel
    rw [toList_array] at hread
    have hlist : Gives T G input (fuel + 1) (opening.next inner) pos (items.map sorted) stop := by
      refine gives_bracketed hopening hinner.2 rfl hread hclear (fun start hstart hlong => ?_) hfuel
      refine ⟨fun item hitem => visible_compact (hitems item hitem).1, ?_, fun i hi => ?_⟩
      · intro item hitem i j hi hj hread hclear
        exact (hitems item hitem).2 input (fuel + 1) i j hread hclear (by omega)
      · obtain ⟨less, rfl⟩ : ∃ less, fuel = less + 1 := ⟨fuel - 1, by omega⟩
        refine hopens input less i fun c hc => ?_
        obtain rfl := Option.some.inj (hi.symm.trans hc)
        rfl
    rw [sorted, sortedItems_eq]
    exact hlist.tryMap rfl

/-! ## Objects -/

theorem makes_member :
    (member E).Makes fun p => Begins T p (· == '"') ∧
      ∀ (G : LeftRec.Grammar Rule) (input : Input Char) (fuel pos stop : Nat)
        (m : String × Json), m.2.Simple → Known T G m.2 →
        input.Reads pos (memberCompact m).toList stop → Clear input stop → stop ≤ fuel + pos →
        Gives T G input (fuel + 1) p pos (m.1, m.2.sorted) stop := by
  refine (makes_string (T := T)).bind fun name hname => ?_
  refine (makes_symbol (T := T) (s := ":") rfl).bind fun colon hcolon => ?_
  refine Build.makes_pure ⟨?_, ?_⟩
  · exact (hname.toBegins.zipWith (fun a _ => a) hcolon.bare).zipWith Prod.mk bare_value
  · intro G input fuel pos stop m hsimple hknown hread hclear hfuel
    have hparts : input.Reads pos
        ((quoted m.1).toList ++ (":".toList ++ m.2.compact.toList)) stop := by
      simpa [memberCompact] using hread
    obtain ⟨i, hfirst, hbehind⟩ := hparts.split
    obtain ⟨j, hsign, hvalue⟩ := hbehind.split
    have hi : Clear input i := .of_reads hsign ⟨':', [], rfl, rfl⟩
    have hj : Clear input j := .of_reads hvalue (visible_compact hsimple)
    have hmoved := hsign.lt (by decide)
    have hfirst' := hfirst.le
    have hgivesName := hname.takes G input fuel pos i _ m.1 rfl hfirst hi
    have hgivesColon := hcolon.takes G input fuel i j _ _ ⟨rfl, rfl⟩ hsign hj
    have hgivesValue := hknown input (fuel + 1) j stop hvalue hclear (by omega)
    exact (hgivesName.zipWith (fun a _ => a) hgivesColon).zipWith Prod.mk hgivesValue

theorem makes_object :
    (object E).Makes fun p => Begins T p (· == '\x7b') ∧
      ∀ (G : LeftRec.Grammar Rule) (input : Input Char) (fuel pos stop : Nat)
        (members : List (String × Json)), (members.map (·.1)).Nodup →
        (∀ m ∈ members, m.2.Simple ∧ Known T G m.2) →
        input.Reads pos (compact (.object members)).toList stop → Clear input stop →
        stop ≤ fuel + pos → Gives T G input (fuel + 1) p pos (sorted (.object members)) stop := by
  refine (makes_member (T := T)).bind fun member hmember => ?_
  refine (makes_symbol (T := T) (s := "\x7b") rfl).bind fun opening hopening => ?_
  refine (makes_items (T := T) (s := "\x7d") member rfl (by decide) rfl).bind fun inner hinner => ?_
  refine Build.makes_pure ⟨?_, ?_⟩
  · exact (hopening.toBegins.zipWith (fun _ b => b) (hinner.1 hmember.1.bare)).tryMap _
  · intro G input fuel pos stop members hnames hmembers hread hclear hfuel
    rw [toList_object] at hread
    have hlist : Gives T G input (fuel + 1) (opening.next inner) pos
        (members.map fun m => (m.1, m.2.sorted)) stop := by
      refine gives_bracketed hopening hinner.2 rfl hread hclear (fun start hstart hlong => ?_) hfuel
      refine ⟨fun m _ => visible_memberCompact m, ?_, fun i hi => ?_⟩
      · intro m hm i j hi hj hread hclear
        obtain ⟨hsimple, hknown⟩ := hmembers m hm
        exact hmember.2 G input fuel i j m hsimple hknown hread hclear (by omega)
      · refine hmember.1.rejects G input fuel i fun c hc => ?_
        obtain rfl := Option.some.inj (hi.symm.trans hc)
        rfl
    have hsame : ((members.map fun m => (m.1, m.2.sorted)).map (·.1)).Nodup := by
      simpa [Function.comp_def] using hnames
    refine hlist.tryMap (congrArg Except.ok ?_)
    rw [ofMembers_eq hsame, sorted, sortedMembers_eq]

/-! ## Values -/

/-- The values that a value is made of. -/
def children : Json → List Json
  | .array items => items
  | .object members => members.map (·.2)
  | _ => []

/-- The body of the rule takes a value if the rule takes those that it is made of. -/
structure Body (T : Type → Type) [MemoTable T] (p : P Json) : Prop extends Begins T p opens where
  takes : ∀ (G : LeftRec.Grammar Rule) (input : Input Char) (fuel pos stop : Nat) (j : Json),
    Opens T G → j.Simple → (∀ child ∈ children j, Known T G child) →
      input.Reads pos j.compact.toList stop → Clear input stop → stop ≤ fuel + pos →
        Gives T G input (fuel + 1) p pos j.sorted stop

theorem makes_body : (body E).Makes (Body T) := by
  refine (makes_array (T := T)).bind fun array harray => ?_
  refine (makes_object (T := T)).bind fun object hobject => ?_
  refine (makes_word (T := T) (s := "null") rfl .null).bind fun null hnull => ?_
  refine (makes_word (T := T) (s := "true") rfl (.bool true)).bind fun yes hyes => ?_
  refine (makes_word (T := T) (s := "false") rfl (.bool false)).bind fun no hno => ?_
  refine (makes_numeral (T := T)).bind fun numeral hnumeral => ?_
  refine (makes_string (T := T)).bind fun string hstring => Build.makes_pure ?_
  have hword := (hnull.toBegins.alt hyes.toBegins).alt hno.toBegins
  have hnumber := hword.alt hnumeral.toBegins
  have hquoted := hnumber.alt (hstring.toBegins.tryMap fun s => .ok (Json.string s))
  have hlist := hquoted.alt harray.1
  refine ⟨(hlist.alt hobject.1).label "JSON value", ?_⟩
  intro G input fuel pos stop j hopens hsimple hchildren hread hclear hfuel
  refine Gives.label "JSON value" ?_
  -- The first character tells the alternatives before the right one that they are not meant.
  cases hsimple with
  | null =>
      have hgives := hnull.takes G input fuel pos stop _ _ ⟨rfl, rfl⟩ hread hclear
      exact hgives.alt_left.alt_left.alt_left.alt_left.alt_left.alt_left
  | bool b =>
      cases b with
      | true =>
          have hhead : (input.rest pos).head? = some 't' := head?_of_reads hread
          have hgives := hyes.takes G input fuel pos stop _ _ ⟨rfl, rfl⟩ hread hclear
          exact (hnull.gives_right hhead rfl hgives).alt_left.alt_left.alt_left.alt_left.alt_left
      | false =>
          have hhead : (input.rest pos).head? = some 'f' := head?_of_reads hread
          have hgives := hno.takes G input fuel pos stop _ _ ⟨rfl, rfl⟩ hread hclear
          exact ((hnull.alt hyes.toBegins).gives_right hhead rfl
            hgives).alt_left.alt_left.alt_left.alt_left
  | string s =>
      have hhead : (input.rest pos).head? = some '"' := by
        have hquote : input.Reads pos (quoted s).toList stop := hread
        rw [toList_quoted] at hquote
        exact head?_of_reads hquote
      have hgives := (hstring.tryMap fun s => .ok (Json.string s)).takes G input fuel pos stop _ _
        ⟨s, rfl, rfl⟩ hread hclear
      exact (hnumber.gives_right hhead rfl hgives).alt_left.alt_left
  | @array items hitems =>
      have hhead : (input.rest pos).head? = some '[' := by
        rw [toList_array] at hread
        exact head?_of_reads hread
      have hgives := harray.2 G input fuel pos stop items hopens
        (fun item hitem => ⟨hitems item hitem, hchildren item hitem⟩) hread hclear hfuel
      exact (hquoted.gives_right hhead rfl hgives).alt_left
  | @object members hnames hmembers =>
      have hhead : (input.rest pos).head? = some '\x7b' := by
        rw [toList_object] at hread
        exact head?_of_reads hread
      have hgives := hobject.2 G input fuel pos stop members hnames
        (fun m hm => ⟨hmembers m hm, hchildren m.2 (List.mem_map_of_mem hm)⟩) hread hclear hfuel
      exact hlist.gives_right hhead rfl hgives

/-! ## The rule -/

section Rule

variable {G : LeftRec.Grammar Rule} {p : P Json}

theorem opens_of_body (hdefine : G.define () = some p) (hp : Body T p) : Opens T G :=
  fun input fuel pos hhead => Rejects.ref hdefine (hp.rejects G input fuel pos hhead)

/-- A value is known if those that it is made of are. -/
theorem known_of_children (hdefine : G.define () = some p) (hp : Body T p) {j : Json}
    (hj : j.Simple) (hchildren : ∀ child ∈ children j, Known T G child) : Known T G j := by
  intro input fuel pos stop hread hclear hfuel
  have hmoved := hread.le
  obtain ⟨less, rfl⟩ : ∃ less, fuel = less + 2 := ⟨fuel - 2, by omega⟩
  have hgives : Gives T G input (less + 1) p pos j.sorted stop :=
    hp.takes G input less pos stop j (opens_of_body hdefine hp) hj hchildren hread hclear (by omega)
  exact Gives.ref hdefine hgives

/-- Where the rule is not memoized, it takes every value. -/
theorem known_of_simple (hdefine : G.define () = some p) (hp : Body T p) {j : Json}
    (hj : j.Simple) : Known T G j := by
  induction hj with
  | null => exact known_of_children hdefine hp .null fun _ h => nomatch h
  | bool b => exact known_of_children hdefine hp (.bool b) fun _ h => nomatch h
  | string s => exact known_of_children hdefine hp (.string s) fun _ h => nomatch h
  | array hitems ih => exact known_of_children hdefine hp (.array hitems) ih
  | object hnames hmembers ih =>
      refine known_of_children hdefine hp (.object hnames hmembers) fun child hchild => ?_
      obtain ⟨m, hm, rfl⟩ := List.mem_map.1 hchild
      exact ih m hm

end Rule

/-! ## The language -/

/-- The grammar of one memoized rule. -/
def memoized (key : Key) (body : P Json) : LeftRec.Grammar Rule :=
  { define := fun _ => some (.memo (S := Rule) () .even key body) }

/-- The language has such a grammar, and a start that skips blanks before the rule. -/
theorem makes_language : (language E).Makes fun L => ∃ key blanks body,
    L.grammar = memoized key body ∧ L.start = blanks.next value ∧ Skips T blanks ∧
      Body T body := by
  refine (makes_blanks (T := T)).bind fun blanks hblanks => ?_
  refine (makes_body (T := T)).bind fun body hbody => Build.makes_freshKey.bind fun key _ => ?_
  exact Build.makes_pure ⟨key, blanks, body, rfl, rfl, hblanks, hbody⟩

/-! ## Whole texts -/

section Texts

variable [LawfulMemoTable T] {key : Key} {blanks : P Unit} {body : P Json}

/-- What the rule finishes with where it is not memoized, it finishes with where it is. -/
theorem run_memoized_of_erase {p : P Json} (hp : p.All Parser.Bare)
    (hbody : body.All Parser.Bare) {input : Input Char} {fuel pos : Nat}
    {state after : State Rule T} {o : Outcome Json} (hstate : state.NoEntries)
    (h : (memoized key body).erase.run input fuel p pos ∅ state = .done o after) :
    ∃ next, (memoized key body).run input fuel p pos ∅ state = .done o next := by
  let node : MemoNode Rule := ⟨(), .even, key, body⟩
  have hbare {β : Type} {q : P β} (hq : q.Bare) : q.Offered ∧ q.Listed [node] :=
    ⟨hq.1.1, hq.listed [node]⟩
  have hall : (memoized key body).Built (fun q => q.Offered ∧ q.Listed [node]) p := by
    refine Built.of_defined (hp.imp hbare) fun _ => ⟨⟨trivial, ?_⟩, hbody.imp hbare⟩
    rintro _ ⟨⟩
    exact List.mem_singleton_self node
  let C : Comparison Rule T :=
    { grammar := memoized key body, input, root := p, final := after
      steady := fun _ => Build.steady_fault _
      offered := fun _ q hq => (hall q hq).1
      keys := .of_listed (fun _ q hq => (hall q hq).2) (List.nodup_singleton key) }
  have hplain : C.plain fuel p pos ∅ state = .done o after := by
    rw [Comparison.plain, hp.erase_eq]
    exact h
  obtain ⟨next, hrun, -⟩ := Comparison.tracked (C := C) fuel p
    (.fresh .itself (.of_noEntries hstate) hplain (.refl after))
  exact ⟨next, hrun⟩

theorem parse_memoized (hblanks : Skips T blanks) (hbody : Body T body) {j : Json}
    (hj : j.Simple) {fuel : Nat} (hfuel : (Input.ofText j.compact).extent + 2 ≤ fuel)
    (state : State Rule T) :
    let input := Input.ofText j.compact
    ∃ after, (memoized key body).parse fuel input true (blanks.next value) state =
      .done (.yield j.sorted input.extent) after := by
  intro input
  obtain ⟨less, rfl⟩ : ∃ less, fuel = less + 1 := ⟨fuel - 1, by omega⟩
  let plain := (memoized key body).erase
  have hread : input.Reads 0 j.compact.toList input.extent := Input.reads_tokens input
  have hstart : Clear input 0 := .of_reads hread (visible_compact hj)
  have hdefine : plain.define () = some body := congrArg some hbody.bare.erase_eq
  have hvalue : Gives T plain input (less + 1) value 0 j.sorted input.extent :=
    known_of_simple hdefine hbody hj input (less + 1) 0 _ hread (clear_extent input) hfuel
  have hnext : Gives T plain input (less + 1) (blanks.next value) 0 j.sorted input.extent :=
    (hblanks.gives plain input less 0 hstart).zipWith (fun _ b => b) hvalue
  have hcomplete : Gives T plain input (less + 1) (blanks.next value).complete 0 j.sorted
      input.extent := hnext.zipWith (fun a _ => a) gives_eof
  -- From here on the rule is memoized, which makes no difference to what is found.
  have hbare : (blanks.next value).complete.All Parser.Bare :=
    Parser.bare_whole (Parser.bare_zipWith _ hblanks.bare bare_value) true
  obtain ⟨next, hrun⟩ := run_memoized_of_erase hbare hbody.bare (State.noEntries_clear state)
    (hcomplete ∅ state.clear).run_eq
  exact ⟨_, parse_eq_done.2 ⟨next, hrun, rfl⟩⟩

/-- The compact text of a value without numbers, in every object of which the names are distinct,
is read as that value: the whole text is consumed, and the members of its objects are put in the
order of their names, so a value in which they are listed so is read back as it is. -/
theorem parse_compact {j : Json} (hj : j.Simple) {fuel : Nat}
    (hfuel : (Input.ofText j.compact).extent + 2 ≤ fuel) (state : State Rule T) :
    (∃ after, Eval.building (language E)
        (fun L => L.grammar.parse fuel (Input.ofText j.compact) true L.start) state =
      .done (.yield j.sorted (Input.ofText j.compact).extent) after) ∧
      (j.Ordered → j.sorted = j) := by
  obtain ⟨L, workshop, hmade, key, blanks, body, hgrammar, hstart, hblanks, hbody⟩ :=
    makes_language (T := T) (E := E) state.workshop
  obtain ⟨after, hparse⟩ : ∃ after, (memoized key body).parse fuel (Input.ofText j.compact) true
      (blanks.next value) { state with workshop } = .done (.yield j.sorted _) after :=
    parse_memoized hblanks hbody hj hfuel { state with workshop }
  refine ⟨⟨after, ?_⟩, Ordered.sorted_eq⟩
  rw [Eval.building, hmade]
  show L.grammar.parse _ _ _ L.start _ = _
  rw [hgrammar, hstart]
  exact hparse

/-- Members out of order, a list, and a string with a quote and a backslash. -/
theorem parse_compact_nested :
    let items : Json := .array [.null, .string "\"\\é"]
    let j : Json := .object [("b", items), ("a", .bool true)]
    j.compact = "\x7b\"b\":[null,\"\\\"\\\\é\"],\"a\":true\x7d" ∧
    ∃ after, Eval.building (language Regex.Automaton)
        (fun L => L.grammar.parse 40 (Input.ofText j.compact) true L.start)
        (.new : State Rule HashedTable) =
      .done (.yield (.object [("a", .bool true), ("b", items)]) 30) after := by
  intro items j
  have hj : j.Simple := by
    refine .object (by decide) ?_
    simp only [List.forall_mem_cons]
    refine ⟨.array ?_, .bool true, by simp⟩
    simp only [List.forall_mem_cons]
    exact ⟨.null, .string _, by simp⟩
  have hsorted : j.sorted = .object [("a", .bool true), ("b", items)] := by
    have hnames : (List.map (·.1) (sortedMembers [("b", items), ("a", .bool true)])).Nodup := by
      decide
    exact (ofMembers_eq hnames).symm
  have hextent : (Input.ofText j.compact).extent = 30 := by decide +kernel
  have hfuel : (Input.ofText j.compact).extent + 2 ≤ 40 := by
    rw [hextent]
    decide
  have hparse := (parse_compact (E := Regex.Automaton) hj hfuel (.new : State Rule HashedTable)).1
  rw [hsorted, hextent] at hparse
  exact ⟨by decide +kernel, hparse⟩

end Texts

end Json.Grammar

end LeftRec
