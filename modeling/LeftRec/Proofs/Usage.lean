import Mathlib.Data.List.Nodup
import Mathlib.Data.List.OfFn
import LeftRec.Parser

/-!
# Usage — what a parser is made of and refers to

A parser uses its parts, the definitions of the rules that it calls, and the copies that its cells
get.  Properties that a whole grammar must have, such as "made of the library's combinators only" or
"distinct memoized rules have distinct keys", are properties of everything that a parser uses.
-/

namespace LeftRec

variable {S : Signature} {α β γ : Type}

/-! ## Parts -/

/-- The first parser is an immediate part of the second. -/
inductive Parser.Part : {α β : Type} → Parser S α → Parser S β → Prop
  | count {α : Type} (what : String) (p : Parser S α) : Part p (.count what p)
  | tryMap {α β : Type} (f : α → Except Fault β) (p : Parser S α) : Part p (.tryMap f p)
  | zipWithLeft {α β γ : Type} (f : α → β → γ) (p : Parser S α) (q : Parser S β) :
      Part p (.zipWith f p q)
  | zipWithRight {α β γ : Type} (f : α → β → γ) (p : Parser S α) (q : Parser S β) :
      Part q (.zipWith f p q)
  | bindFirst {α β : Type} (p : Parser S α) (f : α → Parser S β) : Part p (.bind p f)
  | bindNext {α β : Type} (p : Parser S α) (f : α → Parser S β) (a : α) : Part (f a) (.bind p f)
  | altLeft {α : Type} (p q : Parser S α) : Part p (.alt p q)
  | altRight {α : Type} (p q : Parser S α) : Part q (.alt p q)
  | label {α : Type} (name : String) (p : Parser S α) : Part p (.label name p)
  | commit {α : Type} (p : Parser S α) : Part p (.commit p)
  | look {α : Type} (p : Parser S α) : Part p (.look p)
  | row {α : Type} (count : Nat) (part : Fin count → Parser S α) (i : Fin count) :
      Part (part i) (.row count part)
  | many {α : Type} (p : Parser S α) : Part p (.many p)
  | memo (kind : S.Kind) (parity : Parity) (key : Key) (p : Parser S (S.Value kind)) :
      Part p (.memo kind parity key p)

/-- A property of the parser and of all its parts, down to the leaves. -/
def Parser.All (property : {β : Type} → Parser S β → Prop) : {α : Type} → Parser S α → Prop
  | _, .count what p => property (.count what p) ∧ p.All property
  | _, .tryMap f p => property (.tryMap f p) ∧ p.All property
  | _, .zipWith f p q => property (.zipWith f p q) ∧ p.All property ∧ q.All property
  | _, .bind p f => property (.bind p f) ∧ p.All property ∧ ∀ a, (f a).All property
  | _, .alt p q => property (.alt p q) ∧ p.All property ∧ q.All property
  | _, .label name p => property (.label name p) ∧ p.All property
  | _, .commit p => property (.commit p) ∧ p.All property
  | _, .look p => property (.look p) ∧ p.All property
  | _, .row n part => property (.row n part) ∧ ∀ i, (part i).All property
  | _, .many p => property (.many p) ∧ p.All property
  | _, .memo kind parity key p => property (.memo kind parity key p) ∧ p.All property
  | _, p => property p

namespace Parser.All

variable {property : {β : Type} → Parser S β → Prop} {p : Parser S α} {q : Parser S β}

theorem holds (h : p.All property) : property p := by
  cases p with
  | unit | fail | literal | token | find | all | eof | scan | custom | ref | delay => exact h
  | count | tryMap | zipWith | bind | alt | label | commit | look | row | many | memo => exact h.1

theorem part (h : p.All property) (hq : q.Part p) : q.All property := by
  cases hq with
  | count | tryMap | label | commit | look | many | memo => exact h.2
  | zipWithLeft | altLeft | bindFirst => exact h.2.1
  | zipWithRight | altRight => exact h.2.2
  | bindNext p f a => exact h.2.2 a
  | row n part i => exact h.2 i

end Parser.All

/-- The parser has the property if all its immediate parts have it. -/
def Parser.Inner (property : {β : Type} → Parser S β → Prop) : {α : Type} → Parser S α → Prop
  | _, .count _ p => property p
  | _, .tryMap _ p => property p
  | _, .zipWith _ p q => property p ∧ property q
  | _, .bind p f => property p ∧ ∀ a, property (f a)
  | _, .alt p q => property p ∧ property q
  | _, .label _ p => property p
  | _, .commit p => property p
  | _, .look p => property p
  | _, .row _ part => ∀ i, property (part i)
  | _, .many p => property p
  | _, .memo _ _ _ p => property p
  | _, _ => True

namespace Parser

variable {p : Parser S α} {q : Parser S β} {r : Parser S γ}

theorem Inner.part {property : {β : Type} → Parser S β → Prop} (h : p.Inner property)
    (hq : q.Part p) : property q := by
  cases hq with
  | count | tryMap | label | commit | look | many | memo => exact h
  | zipWithLeft | altLeft | bindFirst => exact h.1
  | zipWithRight | altRight => exact h.2
  | bindNext p f a => exact h.2 a
  | row n part i => exact h i

/-- Induction from the parts of a parser to the parser. -/
theorem part_induction {property : {β : Type} → Parser S β → Prop}
    (h : ∀ {β : Type} (p : Parser S β),
      (∀ {γ : Type} (q : Parser S γ), q.Part p → property q) → property p) (p : Parser S α) :
    property p := by
  have step : ∀ {β : Type} (p : Parser S β), p.Inner property → property p :=
    fun p hp => h p fun _ hq => hp.part hq
  induction p with
  | unit | fail | literal | token | find | all | eof | scan | custom | ref | delay =>
      exact step _ trivial
  | count what p ih => exact step _ ih
  | tryMap f p ih => exact step _ ih
  | zipWith f p q ihp ihq => exact step _ ⟨ihp, ihq⟩
  | bind p f ihp ihf => exact step _ ⟨ihp, ihf⟩
  | alt p q ihp ihq => exact step _ ⟨ihp, ihq⟩
  | label name p ih => exact step _ ih
  | commit p ih => exact step _ ih
  | look p ih => exact step _ ih
  | row count part ih => exact step _ ih
  | many p ih => exact step _ ih
  | memo kind parity key p ih => exact step _ ih

/-- The second parser is the first one, or a part of it at some depth. -/
inductive Encloses (p : Parser S α) : {β : Type} → Parser S β → Prop
  | itself : Encloses p p
  | part {β γ : Type} {q : Parser S β} {r : Parser S γ} :
      Encloses p q → r.Part q → Encloses p r

theorem Encloses.of_part (h : p.Encloses q) (hr : r.Part q) :
    ∃ (δ : Type) (first : Parser S δ), first.Part p ∧ first.Encloses r := by
  induction h generalizing γ with
  | itself => exact ⟨γ, r, hr, .itself⟩
  | part _ hpart ih =>
      obtain ⟨δ, first, hfirst, hencloses⟩ := ih hpart
      exact ⟨δ, first, hfirst, hencloses.part hr⟩

/-- No parser is a part of its own parts. -/
theorem not_encloses_of_part (h : q.Part p) : ¬ q.Encloses p := by
  induction p using part_induction generalizing β with
  | h p ih =>
      intro hencloses
      obtain ⟨δ, first, hfirst, hagain⟩ := hencloses.of_part h
      exact ih q h hfirst hagain

end Parser

/-! ## Use -/

namespace Grammar

variable {G : Grammar S}

/-- What a parser uses, where `built` says from which workshops the copies of cells may be made. -/
inductive Uses (G : Grammar S) (built : Nat → Workshop → Prop) {α : Type} (p : Parser S α) :
    {β : Type} → Parser S β → Prop
  | itself : Uses G built p p
  | part {β γ : Type} {q : Parser S β} {r : Parser S γ} :
      Uses G built p q → r.Part q → Uses G built p r
  | rule {rule : S.Rule} {body : Parser S (S.Value (S.kind rule))} :
      Uses G built p (.ref rule) → G.define rule = some body → Uses G built p body
  | copy {cell : Nat} {rule : S.Rule} {workshop : Workshop}
      {body : Parser S (S.Value (S.kind rule))} :
      Uses G built p (.delay cell rule) → built cell workshop →
        (G.copy rule workshop).1 = .ok body → Uses G built p body

namespace Uses

variable {built : Nat → Workshop → Prop} {p : Parser S α} {q : Parser S β} {r : Parser S γ}

theorem trans (hpq : G.Uses built p q) (hqr : G.Uses built q r) : G.Uses built p r := by
  induction hqr with
  | itself => exact hpq
  | part _ hpart ih => exact ih.part hpart
  | rule _ hdefine ih => exact ih.rule hdefine
  | copy _ hbuilt hcopy ih => exact ih.copy hbuilt hcopy

theorem of_part (h : q.Part p) : G.Uses built p q :=
  Uses.itself.part h

theorem mono {more : Nat → Workshop → Prop} (h : G.Uses built p q)
    (hmore : ∀ cell workshop, built cell workshop → more cell workshop) : G.Uses more p q := by
  induction h with
  | itself => exact .itself
  | part _ hpart ih => exact ih.part hpart
  | rule _ hdefine ih => exact ih.rule hdefine
  | copy _ hbuilt hcopy ih => exact ih.copy (hmore _ _ hbuilt) hcopy

end Uses

/-- Copies may be made from any workshop. -/
def anyCopy : Nat → Workshop → Prop :=
  fun _ _ => True

/-- Everything that a parser uses, whatever its copies are made from, has a property. -/
def Built (G : Grammar S) (property : {β : Type} → Parser S β → Prop) (p : Parser S α) : Prop :=
  ∀ ⦃β : Type⦄ (q : Parser S β), G.Uses anyCopy p q → property q

namespace Built

variable {property : {β : Type} → Parser S β → Prop} {p : Parser S α} {q : Parser S β}

theorem holds (h : G.Built property p) : property p :=
  h p .itself

theorem of_uses (h : G.Built property p) (hq : G.Uses anyCopy p q) : G.Built property q :=
  fun _ r hr => h r (hq.trans hr)

theorem part (h : G.Built property p) (hq : q.Part p) : G.Built property q :=
  h.of_uses (.of_part hq)

theorem parts {count : Nat} {part : Fin count → Parser S α}
    (h : G.Built property (.row count part)) : ∀ p ∈ List.ofFn part, G.Built property p :=
  List.forall_mem_ofFn_iff.2 fun i => h.part (.row count part i)

theorem rule {rule : S.Rule} {body : Parser S (S.Value (S.kind rule))}
    (h : G.Built property (Parser.ref rule : Parser S _)) (hdefine : G.define rule = some body) :
    G.Built property body :=
  h.of_uses (Uses.itself.rule hdefine)

theorem copy {cell : Nat} {rule : S.Rule} {workshop : Workshop}
    {body : Parser S (S.Value (S.kind rule))}
    (h : G.Built property (Parser.delay cell rule : Parser S _))
    (hcopy : (G.copy rule workshop).1 = .ok body) : G.Built property body :=
  h.of_uses (Uses.itself.copy trivial hcopy)

/-- It is enough that the parser, all definitions and all copies have the property throughout. -/
theorem of_all (hp : p.All property)
    (hrule : ∀ rule body, G.define rule = some body → body.All property)
    (hcopy : ∀ rule workshop body, (G.copy rule workshop).1 = .ok body → body.All property) :
    G.Built property p := by
  intro β q hq
  suffices hall : q.All property from hall.holds
  induction hq with
  | itself => exact hp
  | part _ hpart ih => exact ih.part hpart
  | rule _ hdefine _ => exact hrule _ _ hdefine
  | copy _ _ hbody _ => exact hcopy _ _ _ hbody

/-- Where every rule is defined and none is copied, the parser and the definitions are enough. -/
theorem of_defined {define : (rule : S.Rule) → Parser S (S.Value (S.kind rule))}
    (hp : p.All property) (hrule : ∀ rule, (define rule).All property) :
    Grammar.Built { define := fun rule => some (define rule) } property p := by
  refine of_all hp (fun rule body hdefine => ?_) fun rule workshop body hcopy => ?_
  · obtain rfl := Option.some.inj hdefine
    exact hrule rule
  · cases hcopy

end Built

end Grammar

/-! ## Copies -/

/-- What is built and which numbers that takes depends on the numbers handed out before, but not on
what was noted before.  So it can be built again later from the numbers that it was built from
first. -/
def Build.Steady {α : Type*} (x : Build α) : Prop :=
  ∀ w w' : Workshop, w.supply = w'.supply → (x w).1 = (x w').1 ∧ (x w).2.supply = (x w').2.supply

theorem Build.steady_fault {α : Type*} (f : Fault) : (fault f : Build α).Steady :=
  fun _ _ h => ⟨rfl, h⟩

/-- All copies are built from the numbers handed out before only. -/
def Grammar.Steady (G : Grammar S) : Prop :=
  ∀ rule, (G.copy rule).Steady

/-! ## Memoized parsers -/

/-- A memoized parser, taken apart. -/
structure MemoNode (S : Signature) where
  kind : S.Kind
  parity : Parity
  key : Key
  body : Parser S (S.Value kind)

def MemoNode.parser (node : MemoNode S) : Parser S (S.Value node.kind) :=
  .memo node.kind node.parity node.key node.body

/-- Distinct memoized parsers among those that a parser uses have distinct keys. -/
def Grammar.DistinctKeys (G : Grammar S) (built : Nat → Workshop → Prop) (p : Parser S α) :
    Prop :=
  ∀ m n : MemoNode S, G.Uses built p m.parser → G.Uses built p n.parser → m.key = n.key → m = n

/-- The parser taken apart, if it is memoized. -/
def Parser.node? : Parser S α → Option (MemoNode S)
  | .memo kind parity key body => some ⟨kind, parity, key, body⟩
  | _ => none

/-- If the parser is memoized, then it is one of the nodes. -/
def Parser.Listed (nodes : List (MemoNode S)) (p : Parser S α) : Prop :=
  ∀ node, p.node? = some node → node ∈ nodes

/-- It is enough to list the memoized parsers with distinct keys. -/
theorem Grammar.DistinctKeys.of_listed {G : Grammar S} {built : Nat → Workshop → Prop}
    {p : Parser S α} {nodes : List (MemoNode S)} (h : G.Built (Parser.Listed nodes) p)
    (hkeys : (nodes.map MemoNode.key).Nodup) : G.DistinctKeys built p := by
  intro m n hm hn hkey
  have hm' : m ∈ nodes := h m.parser (hm.mono fun _ _ _ => trivial) m rfl
  have hn' : n ∈ nodes := h n.parser (hn.mono fun _ _ _ => trivial) n rfl
  exact List.inj_on_of_nodup_map hkeys hm' hn' hkey

/-! ## The library's parsers -/

/-- A parser that is not written by hand. -/
def Parser.Composed : Parser S α → Prop
  | .custom _ => False
  | _ => True

/-- A parser whose outermost operation the library offers: it neither is written by hand nor counts
its runs. -/
def Parser.Offered : Parser S α → Prop
  | .custom _ => False
  | .count .. => False
  | _ => True

theorem Parser.Offered.composed {p : Parser S α} (h : p.Offered) : p.Composed := by
  cases p with
  | custom f => exact h
  | unit | fail | literal | token | find | all | eof | scan | count | tryMap | zipWith | bind | alt
  | label | commit | look | row | many | memo | ref | delay => trivial

theorem Grammar.Built.composed {G : Grammar S} {p : Parser S α} (h : G.Built Parser.Offered p) :
    G.Built Parser.Composed p :=
  fun _ q hq => (h q hq).composed

/-- A parser whose outermost operation the library offers and which neither is memoized nor refers
to a rule. -/
def Parser.Plain : Parser S α → Prop
  | .custom _ => False
  | .count .. => False
  | .memo .. => False
  | .ref _ => False
  | .delay .. => False
  | _ => True

/-- A parser that is no late copy of a rule. -/
def Parser.Early : Parser S α → Prop
  | .delay .. => False
  | _ => True

end LeftRec
