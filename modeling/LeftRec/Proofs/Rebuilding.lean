import LeftRec.Blueprint.Basic
import LeftRec.Memo.Hashed
import LeftRec.Memo.Ordered
import LeftRec.Proofs.Equivariance
import LeftRec.Samples.Indirect
import LeftRec.Session

/-!
# Rebuilding — a grammar that is built later parses alike

When a grammar is built again, its memoized rules get other ids than before, and nothing else is
different.  So the second grammar is the first one under other keys, and a parse by it comes to the
same outcome but for the keys.

This is shown for all grammars that blueprints describe, as long as the keys that a blueprint gives
itself are no ids that are yet to be handed out.
-/

namespace LeftRec

universe u v u' v'

variable {S : Signature} {T T' : Type → Type} {α : Type}

/-! ## Ids moved up -/

namespace Key

/-- The key with the id moved up, if it is an id from `base` on. -/
def shift (base offset : Nat) : Key → Key
  | .id n => .id (if n < base then n else n + offset)
  | .name s => .name s

/-- The key is a name, or an id before `base`. -/
def Old (base : Nat) : Key → Prop
  | .id n => n < base
  | .name _ => True

theorem shift_injective (base offset : Nat) : Function.Injective (shift base offset) := by
  intro a b h
  cases a with
  | id m =>
      cases b with
      | id n =>
          simp only [shift, Key.id.injEq] at h ⊢
          split at h <;> split at h <;> omega
      | name s => cases h
  | name s =>
      cases b with
      | id n => cases h
      | name t => exact h

theorem Old.shift_eq {base : Nat} {key : Key} (h : key.Old base) (offset : Nat) :
    key.shift base offset = key := by
  cases key with
  | id n => exact congrArg Key.id (if_pos h)
  | name s => rfl

end Key

/-! ## Builds from a later supply -/

/-- What two builds made: the same fault, or related things. -/
inductive Made {α : Type u} {β : Type v} (R : α → β → Prop) :
    Except Fault α → Except Fault β → Prop
  | error (fault : Fault) : Made R (.error fault) (.error fault)
  | ok {a : α} {b : β} : R a b → Made R (.ok a) (.ok b)

namespace Build

/-- From a supply with `offset` more ids handed out the second build makes what the first one makes,
as related, where both supplies are past `base`.  It hands out as many ids. -/
def Shifted {α : Type u} {β : Type v} (base offset : Nat) (R : α → β → Prop) (x : Build α)
    (y : Build β) : Prop :=
  ∀ w w' : Workshop, base ≤ w.supply.key → w'.supply.key = w.supply.key + offset →
    Made R (x w).1 (y w').1 ∧ base ≤ (x w).2.supply.key ∧
      (y w').2.supply.key = (x w).2.supply.key + offset

variable {base offset : Nat} {α : Type u} {β : Type v} {γ : Type u'} {δ : Type v'}

theorem shifted_pure {R : α → β → Prop} {a : α} {b : β} (h : R a b) :
    Shifted base offset R (pure a) (pure b) :=
  fun _ _ hbase hkey => ⟨.ok h, hbase, hkey⟩

theorem shifted_fault {R : α → β → Prop} (f : Fault) :
    Shifted base offset R (fault f) (fault f) :=
  fun _ _ hbase hkey => ⟨.error f, hbase, hkey⟩

theorem shifted_note (event : Event) : Shifted base offset Eq (note event) (note event) :=
  fun _ _ hbase hkey => ⟨.ok rfl, hbase, hkey⟩

/-- The second build gets the key that the first one gets, moved up. -/
theorem shifted_freshKey :
    Shifted base offset (fun key key' => key' = key.shift base offset) freshKey freshKey := by
  intro w w' hbase hkey
  refine ⟨.ok ?_, Nat.le_succ_of_le hbase, ?_⟩
  · rw [Key.shift, if_neg (Nat.not_lt.2 hbase), hkey]
  · show w'.supply.key + 1 = w.supply.key + 1 + offset
    omega

theorem Shifted.bind {R : α → β → Prop} {R' : γ → δ → Prop} {x : Build α} {y : Build β}
    {f : α → Build γ} {g : β → Build δ} (hx : Shifted base offset R x y)
    (hf : ∀ a b, R a b → Shifted base offset R' (f a) (g b)) :
    Shifted base offset R' (x.bind f) (y.bind g) := by
  intro w w' hbase hkey
  obtain ⟨hmade, hbase, hkey⟩ := hx w w' hbase hkey
  unfold Build.bind
  revert hmade hbase hkey
  rcases x w with ⟨made, next⟩
  rcases y w' with ⟨made', next'⟩
  intro hmade hbase hkey
  cases hmade with
  | error fault => exact ⟨.error fault, hbase, hkey⟩
  | ok hab => exact hf _ _ hab next next' hbase hkey

end Build

/-! ## Parsers with other keys -/

/-- The library offers the parser's outermost operation, and no copy is built for it later. -/
abbrev Parser.Settled (p : Parser S α) : Prop :=
  p.Offered ∧ p.Early

/-- The second parser is the first one with its ids moved up, and both are settled throughout. -/
def Parser.ShiftedTo (base offset : Nat) (p q : Parser S α) : Prop :=
  q = p.rename (Key.shift base offset) ∧ p.All Parser.Settled

/-- The parts of a row do not depend on how their number is given. -/
theorem Parser.row_congr {m n : Nat} (h : m = n) {f : Fin m → Parser S α} {g : Fin n → Parser S α}
    (hparts : ∀ i, f i = g (i.cast h)) : Parser.row m f = Parser.row n g := by
  subst h
  rw [funext hparts]
  rfl

theorem Parser.rename_sequence (r : Key → Key) (ps : List (Parser S α)) :
    (Parser.sequence ps).rename r = Parser.sequence (ps.map (Parser.rename r)) := by
  refine Parser.row_congr (List.length_map _).symm fun i => ?_
  simp only [Fin.getElem_fin, Fin.val_cast, List.getElem_map]

namespace Blueprint

open Build

variable {τ : Type} [DecidableEq τ] {base offset : Nat}

/-! ## Blueprints -/

mutual

/-- The description is made of what the library offers, with no copies that are built later, and of
the keys that it gives itself none is an id from `base` on. -/
def Settled (base : Nat) : Blueprint τ → Prop
  | .literal .. | .token .. | .find .. | .pattern .. | .any | .all | .eof | .fail _ | .unit _
  | .ref _ => True
  | .look p | .map _ p | .yielding _ p | .fallback p _ | .label p _ | .commit p | .many p | .many1 p
  | .memo p none _ _ => p.Settled base
  | .memo p (some key) _ _ => key.Old base ∧ p.Settled base
  | .bind p cont => p.Settled base ∧ FollowSettled base cont
  | .app p q | .ap p q | .seq p q | .skip p q | .next p q | .trim p q | .sepBy p q | .sepBy1 p q =>
      p.Settled base ∧ q.Settled base
  | .wrap p before after => p.Settled base ∧ before.Settled base ∧ after.Settled base
  | .alt first others => first.Settled base ∧ AllSettled base others
  | .sequence ps => AllSettled base ps
  | .probe | .jump .. | .count .. | .copy _ => False

def AllSettled (base : Nat) : List (Blueprint τ) → Prop
  | [] => True
  | p :: rest => p.Settled base ∧ AllSettled base rest

def FollowSettled (base : Nat) : Continuation τ → Prop
  | .always q | .times q => q.Settled base
  | .same | .unit _ | .fail _ => True
  | .branch _ q r => q.Settled base ∧ r.Settled base

end

/-- The parsers of the second list are those of the first one with their ids moved up. -/
def ListShifted (base offset : Nat) (ps qs : List (Plain τ)) : Prop :=
  qs = ps.map (Parser.rename (Key.shift base offset)) ∧ ∀ p ∈ ps, p.All Parser.Settled

theorem ListShifted.sequence {ps qs : List (Plain τ)} (h : ListShifted base offset ps qs) :
    (several (.sequence ps)).ShiftedTo base offset (several (.sequence qs)) := by
  obtain ⟨rfl, hps⟩ := h
  refine ⟨?_, ⟨trivial, trivial⟩, ⟨trivial, trivial⟩, fun i => hps _ (List.getElem_mem _)⟩
  exact congrArg several (Parser.rename_sequence _ ps).symm

theorem ListShifted.foldl_alt {ps qs : List (Plain τ)} (h : ListShifted base offset ps qs)
    {p q : Plain τ} (hp : p.ShiftedTo base offset q) :
    (ps.foldl Parser.alt p).ShiftedTo base offset (qs.foldl Parser.alt q) := by
  obtain ⟨rfl, hps⟩ := h
  induction ps generalizing p q with
  | nil => exact hp
  | cons first rest ih =>
      have halt : (p.alt first).ShiftedTo base offset
          (q.alt (first.rename (Key.shift base offset))) :=
        ⟨by rw [hp.1]; rfl, ⟨trivial, trivial⟩, hp.2, hps first List.mem_cons_self⟩
      exact ih halt fun p hmem => hps p (List.mem_cons_of_mem _ hmem)

theorem ListShifted.replicate {p q : Plain τ} (h : p.ShiftedTo base offset q) (n : Nat) :
    ListShifted base offset (List.replicate n p) (List.replicate n q) := by
  obtain ⟨rfl, hp⟩ := h
  refine ⟨List.map_replicate.symm, fun p' hmem => ?_⟩
  rwa [(List.mem_replicate.1 hmem).2]

theorem all_separated {α β : Type} {p : Parser S α} {separator : Parser S β}
    (hp : p.All Parser.Settled) (hseparator : separator.All Parser.Settled) :
    (p.separated separator).All Parser.Settled :=
  ⟨⟨trivial, trivial⟩, hp, ⟨trivial, trivial⟩, ⟨⟨trivial, trivial⟩, hseparator⟩, trivial, trivial⟩

theorem shiftedTo_memoized {p q : Plain τ} (h : p.ShiftedTo base offset q) (key : Key)
    (parity : Parity) (boxed : Bool) :
    (memoized p key parity boxed).ShiftedTo base offset
      (memoized q (key.shift base offset) parity boxed) := by
  obtain ⟨rfl, hp⟩ := h
  cases boxed with
  | false => exact ⟨rfl, ⟨trivial, trivial⟩, hp⟩
  | true => exact ⟨rfl, ⟨trivial, trivial⟩, ⟨trivial, trivial⟩, ⟨trivial, trivial⟩, hp⟩

variable [Medium τ]

theorem shifted_pattern (source name : String) :
    Shifted base offset (Parser.ShiftedTo base offset)
      (LeftRec.pattern (S := signature τ) (Medium.chars (τ := τ)) source name)
      (LeftRec.pattern (S := signature τ) (Medium.chars (τ := τ)) source name) := by
  unfold LeftRec.pattern patternBy
  split
  · exact shifted_fault _
  · exact (shifted_note _).bind fun _ _ _ => shifted_pure ⟨rfl, trivial, trivial⟩

mutual

/-- A described parser that is built later is the parser with its ids moved up. -/
theorem shifted_build : ∀ p : Blueprint τ, p.Settled base →
    Shifted base offset (Parser.ShiftedTo base offset) (build p) (build p)
  | .literal .., _ | .token .., _ | .find .., _ | .any, _ | .all, _ | .eof, _ =>
      shifted_pure ⟨rfl, ⟨trivial, trivial⟩, trivial, trivial⟩
  | .fail _, _ | .unit _, _ | .ref _, _ => shifted_pure ⟨rfl, trivial, trivial⟩
  | .pattern .., _ =>
      (shifted_pattern _ _).bind fun _ _ h =>
        shifted_pure ⟨congrArg groups h.1, ⟨trivial, trivial⟩, h.2⟩
  | .look p, hp => (shifted_build p hp).bind fun _ _ h =>
      shifted_pure ⟨by rw [h.1]; rfl, ⟨trivial, trivial⟩, ⟨trivial, trivial⟩, h.2⟩
  | .map _ p, hp | .yielding _ p, hp | .label p _, hp | .commit p, hp =>
      (shifted_build p hp).bind fun _ _ h =>
        shifted_pure ⟨by rw [h.1]; rfl, ⟨trivial, trivial⟩, h.2⟩
  | .fallback p _, hp => (shifted_build p hp).bind fun _ _ h =>
      shifted_pure ⟨by rw [h.1]; rfl, ⟨trivial, trivial⟩, h.2, trivial, trivial⟩
  | .many p, hp => (shifted_build p hp).bind fun _ _ h =>
      shifted_pure ⟨by rw [h.1]; rfl, ⟨trivial, trivial⟩, ⟨trivial, trivial⟩, h.2⟩
  | .many1 p, hp => (shifted_build p hp).bind fun _ _ h =>
      shifted_pure ⟨by rw [h.1]; rfl, ⟨trivial, trivial⟩, ⟨trivial, trivial⟩, h.2,
        ⟨trivial, trivial⟩, h.2⟩
  | .bind p cont, hp => (shifted_build p hp.1).bind fun _ _ h => shifted_follow h cont hp.2
  | .app p q, hp | .ap p q, hp | .seq p q, hp | .skip p q, hp | .next p q, hp =>
      (shifted_build p hp.1).bind fun _ _ h => (shifted_build q hp.2).bind fun _ _ h' =>
        shifted_pure ⟨by rw [h.1, h'.1]; rfl, ⟨trivial, trivial⟩, h.2, h'.2⟩
  | .trim p q, hp =>
      (shifted_build p hp.1).bind fun _ _ h => (shifted_build q hp.2).bind fun _ _ h' =>
        shifted_pure ⟨by rw [h.1, h'.1]; rfl, ⟨trivial, trivial⟩, ⟨⟨trivial, trivial⟩, h'.2, h.2⟩,
          h'.2⟩
  | .sepBy p q, hp =>
      (shifted_build p hp.1).bind fun _ _ h => (shifted_build q hp.2).bind fun _ _ h' =>
        shifted_pure ⟨by rw [h.1, h'.1]; rfl, ⟨trivial, trivial⟩, ⟨trivial, trivial⟩,
          all_separated h.2 h'.2⟩
  | .sepBy1 p q, hp =>
      (shifted_build p hp.1).bind fun _ _ h => (shifted_build q hp.2).bind fun _ _ h' =>
        shifted_pure ⟨by rw [h.1, h'.1]; rfl, ⟨trivial, trivial⟩, ⟨trivial, trivial⟩,
          all_separated h.2 h'.2, ⟨trivial, trivial⟩, all_separated h.2 h'.2⟩
  | .wrap p before after, hp =>
      (shifted_build p hp.1).bind fun _ _ h => (shifted_build before hp.2.1).bind fun _ _ h' =>
        (shifted_build after hp.2.2).bind fun _ _ h'' =>
          shifted_pure ⟨by rw [h.1, h'.1, h''.1]; rfl, ⟨trivial, trivial⟩,
            ⟨⟨trivial, trivial⟩, h'.2, h.2⟩, h''.2⟩
  | .alt first others, hp =>
      (shifted_build first hp.1).bind fun _ _ h => (shifted_buildAll others hp.2).bind
        fun _ _ hothers => shifted_pure (hothers.foldl_alt h)
  | .sequence ps, hp => (shifted_buildAll ps hp).bind fun _ _ h => shifted_pure h.sequence
  | .memo p (some key) parity boxed, hp => (shifted_build p hp.2).bind fun _ _ h => by
      have hmemo := shiftedTo_memoized h key parity boxed
      rw [hp.1.shift_eq] at hmemo
      exact shifted_pure hmemo
  | .memo p none parity boxed, hp =>
      (shifted_build p hp).bind fun _ _ h => shifted_freshKey.bind fun key _ hkey =>
        shifted_pure (hkey ▸ shiftedTo_memoized h key parity boxed)
  | .probe, hp | .jump .., hp | .count .., hp | .copy _, hp => hp.elim

theorem shifted_buildAll : ∀ ps : List (Blueprint τ), AllSettled base ps →
    Shifted base offset (ListShifted base offset) (buildAll ps) (buildAll ps)
  | [], _ => shifted_pure ⟨rfl, nofun⟩
  | p :: rest, hp =>
      (shifted_build p hp.1).bind fun _ _ h => (shifted_buildAll rest hp.2).bind fun _ _ hrest =>
        shifted_pure ⟨by rw [h.1, hrest.1]; rfl, List.forall_mem_cons.2 ⟨h.2, hrest.2⟩⟩

theorem shifted_follow {p q : Plain τ} (hp : p.ShiftedTo base offset q) :
    ∀ cont : Continuation τ, FollowSettled base cont →
      Shifted base offset (Parser.ShiftedTo base offset) (follow p cont) (follow q cont)
  | .always r, hr => (shifted_build r hr).bind fun _ _ h =>
      shifted_pure ⟨by rw [hp.1, h.1]; rfl, ⟨trivial, trivial⟩, hp.2, fun _ => h.2⟩
  | .times r, hr => (shifted_build r hr).bind fun _ _ h => by
      have hrow (n : Nat) := (ListShifted.replicate h n).sequence
      refine shifted_pure ⟨?_, ⟨trivial, trivial⟩, hp.2, fun d => (hrow (repetitions d)).2⟩
      rw [hp.1, funext fun d => (hrow (repetitions d)).1]
      rfl
  | .same, _ => shifted_pure ⟨by rw [hp.1]; rfl, ⟨trivial, trivial⟩, hp.2,
      fun _ => ⟨⟨trivial, trivial⟩, trivial, trivial⟩⟩
  | .unit _, _ | .fail _, _ => shifted_pure ⟨by rw [hp.1]; rfl, ⟨trivial, trivial⟩, hp.2,
      fun _ => ⟨trivial, trivial⟩⟩
  | .branch value r r', hr => (shifted_build r hr.1).bind fun _ _ h =>
      (shifted_build r' hr.2).bind fun _ _ h' => by
        refine shifted_pure ⟨?_, ⟨trivial, trivial⟩, hp.2, fun d => ?_⟩
        · rw [hp.1, h.1, h'.1, Parser.rename]
          refine congrArg _ (funext fun d => ?_)
          exact (apply_ite (Parser.rename (Key.shift base offset)) _ _ _).symm
        · beta_reduce
          split
          · exact h.2
          · exact h'.2

end

/-! ## Grammars -/

/-- The rules of the second list are those of the first one with their ids moved up. -/
def RulesShifted (base offset : Nat) (built built' : List (String × Plain τ)) : Prop :=
  built' = built.map (fun entry => (entry.1, entry.2.rename (Key.shift base offset))) ∧
    ∀ entry ∈ built, entry.2.All Parser.Settled

omit [Medium τ] in
theorem RulesShifted.lookup_eq {built built' : List (String × Plain τ)}
    (h : RulesShifted base offset built built') (name : String) :
    built'.lookup name = (built.lookup name).map (Parser.rename (Key.shift base offset)) := by
  obtain ⟨rfl, -⟩ := h
  induction built with
  | nil => rfl
  | cons entry rest ih =>
      rw [List.map_cons, List.lookup_cons, List.lookup_cons, ih]
      cases name == entry.1 <;> rfl

theorem shifted_buildRules {rules : Rules τ}
    (hrules : ∀ name p, (name, some p) ∈ rules → p.Settled base)
    {built built' : List (String × Plain τ)} (hbuilt : RulesShifted base offset built built') :
    Shifted base offset (RulesShifted base offset) (buildRules built rules)
      (buildRules built' rules) := by
  induction rules generalizing built built' with
  | nil => exact shifted_pure hbuilt
  | cons rule rest ih =>
      have hrest := fun name p hmem => hrules name p (List.mem_cons_of_mem _ hmem)
      obtain ⟨name, _ | p⟩ := rule
      · exact ih hrest hbuilt
      · refine (shifted_build p (hrules name p List.mem_cons_self)).bind fun q q' hq => ?_
        rw [hbuilt.lookup_eq, Option.isSome_map]
        split
        · exact shifted_fault _
        · exact ih hrest ⟨by rw [hq.1, hbuilt.1]; rfl, List.forall_mem_cons.2 ⟨hq.2, hbuilt.2⟩⟩

end Blueprint

/-- The definitions and the start of the second language are those of the first one with their ids
moved up, and all of them are settled. -/
structure Language.ShiftedTo (base offset : Nat) (L L' : Language S α) : Prop where
  define_eq : ∀ rule, L'.grammar.define rule =
    (L.grammar.define rule).map (Parser.rename (Key.shift base offset))
  define_settled : ∀ rule body, L.grammar.define rule = some body → body.All Parser.Settled
  start : L.start.ShiftedTo base offset L'.start

/-- A described language that is built later is the language with its ids moved up. -/
theorem Blueprint.shifted_language {τ : Type} [DecidableEq τ] [Medium τ] {base : Nat}
    (offset : Nat) {rules : Rules τ} {start : Blueprint τ}
    (hrules : ∀ name p, (name, some p) ∈ rules → p.Settled base) (hstart : start.Settled base) :
    Build.Shifted base offset (Language.ShiftedTo base offset) (language rules start)
      (language rules start) := by
  have hgrammar : Build.Shifted base offset
      (fun G G' => (∀ rule, G'.define rule = (G.define rule).map (Parser.rename (Key.shift base
        offset))) ∧ ∀ rule body, G.define rule = some body → body.All Parser.Settled)
      (grammar rules) (grammar rules) :=
    (shifted_buildRules hrules ⟨rfl, fun _ h => absurd h List.not_mem_nil⟩).bind
      fun built built' h => Build.shifted_pure ⟨h.lookup_eq, fun rule body hdefine => by
        obtain ⟨before, after, hsplit, -⟩ := List.lookup_eq_some_iff.1 hdefine
        exact h.2 (rule, body) (hsplit ▸ List.mem_append_right _ List.mem_cons_self)⟩
  exact hgrammar.bind fun G G' h => (shifted_build start hstart).bind fun p p' hp =>
    Build.shifted_pure ⟨h.1, h.2, hp⟩

/-! ## Parses -/

variable [MemoTable T] [MemoTable T'] [LawfulMemoTable T] [LawfulMemoTable T']

/-- A grammar with other keys does the same under these keys, if no copies are built. -/
def Translation.redefining {G G' : Grammar S} {r : Key → Key} (hr : Function.Injective r)
    (hdefine : ∀ rule, G'.define rule = (G.define rule).map (Parser.rename r))
    (input : Input S.Token) : Translation G G' input input T T' where
  rename := r
  injective := hr
  places := Eq
  alike := .refl input
  states state state' := MemoTable.Renamed r state.memo state'.memo
  keys _ := True
  lookup kind hs _ hplace := by
    obtain rfl := hplace
    exact State.lookup_rename hs kind _ _
  store context hs _ hplace ho := by
    obtain rfl := hplace
    exact State.memo_store hr hs _ _ context ho
  note hs _ := hs
  define_eq := hdefine
  cells _ := False
  built _ _ := False
  copies _ hcell _ := hcell.elim
  fill _ _ _ hcell := hcell.elim

/-- What settled parsers use, if no copies are built, is settled. -/
theorem Grammar.Uses.settled {G : Grammar S} {β : Type} {p : Parser S α} {q : Parser S β}
    (hp : p.All Parser.Settled)
    (hrule : ∀ rule body, G.define rule = some body → body.All Parser.Settled)
    (hq : G.Uses (fun _ _ => False) p q) : q.All Parser.Settled := by
  induction hq with
  | itself => exact hp
  | part _ hpart ih => exact ih.part hpart
  | rule _ hdefine _ => exact hrule _ _ hdefine
  | copy _ hbuilt _ _ => exact hbuilt.elim

/-- A grammar and the grammar with other keys parse alike but for the keys, if the library offers
all that a parse uses and no copies are built. -/
theorem Grammar.parse_redefined {G G' : Grammar S} {r : Key → Key} (hr : Function.Injective r)
    (hdefine : ∀ rule, G'.define rule = (G.define rule).map (Parser.rename r)) {consumeAll : Bool}
    {p : Parser S α}
    (hsettled : ∀ ⦃β : Type⦄ (q : Parser S β),
      G.Uses (fun _ _ => False) (if consumeAll then p.complete else p) q → q.Settled)
    (fuel : Nat) (input : Input S.Token) (state : State S T) (state' : State S T') :
    (G.parse fuel input consumeAll p state).Rel (fun o o' => o' = o.rename r)
      (fun next next' => MemoTable.Renamed r next.memo next'.memo)
      (G'.parse fuel input consumeAll (p.rename r) state') := by
  let C : Translation G G' input input T T' := .redefining hr hdefine input
  have hwhole : (if consumeAll then (p.rename r).complete else p.rename r) =
      (if consumeAll then p.complete else p).rename r := by
    cases consumeAll with
    | false => rfl
    | true => rfl
  have hrun : Run.Translates C (G.run input fuel (if consumeAll then p.complete else p))
      (G'.run input fuel ((if consumeAll then p.complete else p).rename r)) := by
    refine Grammar.run_translates (C := C) (fun β q hq => ?_) .itself fuel
    obtain ⟨hoffered, hearly⟩ := hsettled q hq
    cases q with
    | custom | count => exact hoffered.elim
    | delay => exact hearly.elim
    | unit | fail | literal | token | find | all | eof | scan | tryMap | zipWith | bind | alt
    | label | commit | look | row | many | memo | ref => trivial
  rw [← hwhole] at hrun
  refine Grammar.parse_rel (fun next next' hs => ?_) (fun _ hs => hs) (MemoTable.Renamed.empty _)
  exact (hrun ∅ rfl hs).mono (fun _ _ ho => ho.eq_rename id) fun _ _ h => h

/-- A language and the language with its ids moved up parse alike but for the ids. -/
theorem Language.ShiftedTo.parse {base offset : Nat} {L L' : Language S α}
    (h : L.ShiftedTo base offset L') (fuel : Nat) (input : Input S.Token) (consumeAll : Bool)
    (state : State S T) (state' : State S T') :
    (L.grammar.parse fuel input consumeAll L.start state).Rel
      (fun o o' => o' = o.rename (Key.shift base offset))
      (fun next next' => MemoTable.Renamed (Key.shift base offset) next.memo next'.memo)
      (L'.grammar.parse fuel input consumeAll L'.start state') := by
  obtain ⟨hrename, hstart⟩ := h.start
  have hwhole : (if consumeAll then L.start.complete else L.start).All Parser.Settled := by
    cases consumeAll with
    | false => exact hstart
    | true => exact ⟨⟨trivial, trivial⟩, hstart, trivial, trivial⟩
  rw [hrename]
  exact Grammar.parse_redefined (Key.shift_injective base offset) h.define_eq
    (fun _ _ hq => (hq.settled hwhole h.define_settled).holds) fuel input state state'

/-- Results do not depend on which keys the rules have.  If the keys of a grammar, of a context and
of a table are renamed without making any two equal, then running comes to the renamed outcome and
to the renamed table.  In particular, a described language that is built later parses as it does
when it is built earlier, under ids that are moved up. -/
theorem Grammar.keys_unobservable :
    (∀ {S : Signature} {α : Type} {r : Key → Key} {G : Grammar S} {p : Parser S α},
      Function.Injective r → G.Steady → G.Built Parser.Offered p →
        ∀ (input : Input S.Token) (fuel pos : Nat) (ctx : Context) {state : State S T}
          {state' : State S T'}, state.Renamed r state' →
          (G.run input fuel p pos ctx state).Rel (fun o o' => o' = o.rename r) (State.Renamed r)
            ((G.rename r).run input fuel (p.rename r) pos (ctx.rename r) state')) ∧
    ∀ {τ : Type} [DecidableEq τ] [Medium τ] (rules : Blueprint.Rules τ) (start : Blueprint τ)
      (w w' : Workshop) (offset : Nat),
      (∀ name p, (name, some p) ∈ rules → p.Settled w.supply.key) →
      start.Settled w.supply.key → w'.supply.key = w.supply.key + offset →
        Made
          (fun L L' => ∀ (fuel : Nat) (input : Input τ) (consumeAll : Bool)
            (state : State (Blueprint.signature τ) T) (state' : State (Blueprint.signature τ) T'),
            (L.grammar.parse fuel input consumeAll L.start state).Rel
              (fun o o' => o' = o.rename (Key.shift w.supply.key offset))
              (fun next next' =>
                MemoTable.Renamed (Key.shift w.supply.key offset) next.memo next'.memo)
              (L'.grammar.parse fuel input consumeAll L'.start state'))
          (Blueprint.language rules start w).1 (Blueprint.language rules start w').1 := by
  constructor
  · intro S α r G p hr hsteady hp input fuel pos ctx state state' hs
    exact Grammar.run_rename hr hsteady hp input fuel pos ctx hs
  · intro τ _ _ rules start w w' offset hrules hstart hkey
    have hmade := (Blueprint.shifted_language offset hrules hstart w w' (Nat.le_refl _) hkey).1
    revert hmade
    generalize (Blueprint.language rules start w).1 = made
    generalize (Blueprint.language rules start w').1 = made'
    intro hmade
    cases hmade with
    | error fault => exact .error fault
    | ok hL => exact .ok hL.parse

/-- Two rules that are left-recursive through each other, one of whose ids becomes a name that comes
after the other one's, run in the course of a recursion.  And a left-recursive rule that is built
again when five ids have been handed out. -/
theorem Grammar.keys_unobservable_recursion :
    let r : Key → Key := Equiv.swap (.id 0) (.name "t")
    let G := Samples.indirectGrammar .even (.id 0) (.id 1)
    let p : Parser Samples.IndirectSignature String := .ref (S := Samples.IndirectSignature) .s
    let later : Workshop := { supply := ⟨5, 0⟩, log := [] }
    let rules : Blueprint.Rules Char :=
      [("e", some (.memo (.alt (.skip (.ref "e") (.literal ['x'] "x")) [.literal ['x'] "x"]) none
        .even false))]
    (Function.Injective r ∧ G.Steady ∧ G.Built Parser.Offered p ∧
      ∃ next next',
        G.run (T := OrderedTable) (Input.ofText "cdc") 40 p 0 (.ofList [(.id 0, 2)]) .new =
          .done (.success ⟨"[(cd)c]", 3, .single (.id 0)⟩) next ∧
        (G.rename r).run (T := HashedTable) (Input.ofText "cdc") 40 p 0 (.ofList [(.name "t", 2)])
          .new = .done (.success ⟨"[(cd)c]", 3, .single (.name "t")⟩) next' ∧
        MemoTable.Renamed r next.memo next'.memo) ∧
    (∀ name p, (name, some p) ∈ rules → p.Settled 0) ∧
    ∃ L L' o next next',
      (Blueprint.language rules (.ref "e") .new).1 = .ok L ∧
      (Blueprint.language rules (.ref "e") later).1 = .ok L' ∧
      L.grammar.parse (T := OrderedTable) 20 (Input.ofText "xx") true L.start .new = .done o next ∧
      o.used = .single (.id 0) ∧
      L'.grammar.parse (T := HashedTable) 20 (Input.ofText "xx") true L'.start .new =
        .done (o.rename (Key.shift 0 5)) next' ∧
      (o.rename (Key.shift 0 5)).used = .single (.id 5) := by
  intro r G p later rules
  obtain ⟨hrename, hbuild⟩ := @keys_unobservable OrderedTable HashedTable _ _ _ _
  have hr : Function.Injective r := Equiv.injective _
  have hsteady : G.Steady := fun _ => Build.steady_fault _
  have hp : G.Built Parser.Offered p := by
    refine .of_all trivial (fun rule body hdefine => ?_) fun rule workshop body hcopy => ?_
    · cases rule with
      | s | t =>
          obtain rfl := Option.some.inj hdefine
          exact ⟨trivial, trivial, ⟨trivial, trivial, trivial, trivial, trivial⟩, trivial, trivial⟩
    · cases hcopy
  have hrules : ∀ name p, (name, some p) ∈ rules → p.Settled 0 := by
    intro name p hmem
    obtain ⟨-, hp⟩ := Prod.mk.inj (List.mem_singleton.1 hmem)
    obtain rfl := Option.some.inj hp
    exact ⟨⟨trivial, trivial⟩, trivial, trivial⟩
  refine ⟨⟨hr, hsteady, hp, ?_⟩, hrules, ?_⟩
  · have hrun : ∃ next, G.run (T := OrderedTable) (Input.ofText "cdc") 40 p 0
        (.ofList [(.id 0, 2)]) .new = .done (.success ⟨"[(cd)c]", 3, .single (.id 0)⟩) next :=
      Result.exists_of_finished (by decide +kernel)
    obtain ⟨next, hrun⟩ := hrun
    have hnew : (State.new : State Samples.IndirectSignature OrderedTable).Renamed r
        (State.new : State Samples.IndirectSignature HashedTable) := ⟨.empty r, rfl, rfl⟩
    have h := hrename hr hsteady hp (Input.ofText "cdc") 40 0 (.ofList [(.id 0, 2)]) hnew
    rw [hrun] at h
    obtain ⟨o', next', hrun', rfl, hnext⟩ := h.of_done
    exact ⟨next, next', hrun, hrun', hnext.memo⟩
  · have hmade := hbuild rules (.ref "e") .new later 5 hrules trivial rfl
    have hcheck : (match (Blueprint.language rules (.ref "e") .new).1 with
        | .ok L => (L.grammar.parse (T := OrderedTable) 20 (Input.ofText "xx") true L.start
            .new).finishedWith fun o _ => decide (o.used = .single (.id 0))
        | .error _ => false) = true := by
      decide +kernel
    generalize (Blueprint.language rules (.ref "e") .new).1 = made at hmade hcheck ⊢
    generalize (Blueprint.language rules (.ref "e") later).1 = made' at hmade ⊢
    cases hmade with
    | error fault => cases hcheck
    | @ok L L' hL =>
        obtain ⟨o, next, hrun, ho⟩ := Result.exists_of_finishedWith hcheck
        have hused : o.used = .single (.id 0) := of_decide_eq_true ho
        have h := hL 20 (Input.ofText "xx") true .new .new
        rw [hrun] at h
        obtain ⟨_, next', hrun', rfl, -⟩ := h.of_done
        have hrenamed : (o.rename (Key.shift 0 5)).used = o.used.rename (Key.shift 0 5) := by
          cases o <;> rfl
        refine ⟨L, L', o, next, next', rfl, rfl, hrun, hused, hrun', ?_⟩
        rw [hrenamed, hused]
        rfl

end LeftRec
