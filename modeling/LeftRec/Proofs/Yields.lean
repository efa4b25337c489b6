import LeftRec.Proofs.Plain
import LeftRec.Proofs.Regions
import LeftRec.Proofs.Termination
import LeftRec.Proofs.Visits
import LeftRec.Samples.Text
import LeftRec.Session

/-!
# Yields — what a run comes to, step by step

Where one knows which branch of every choice is taken, a run can be followed from its parts to the
whole: a parser yields a value and an end, or it refuses and leaves the next alternative to be
tried.  Used sets are only kept within given keys.
-/

namespace LeftRec

variable {S : Signature} {T : Type → Type} {α β γ : Type}

theorem Used.of_mem_sequenced {start stop : Nat} {first second : Used} {key : Key}
    (h : key ∈ Used.sequenced start stop first second) : key ∈ first ∨ key ∈ second := by
  unfold Used.sequenced at h
  split at h
  · exact Used.mem_union.1 h
  · exact .inl h

theorem Failure.isFatal_merge {first second : Failure} (hfirst : first.isFatal = false)
    (hsecond : second.isFatal = false) : (first.merge second).isFatal = false := by
  have htied : (first.reason.mergeTied second.reason).isFatal = false := by
    revert hfirst hsecond
    simp only [Failure.isFatal]
    cases first.reason <;> cases second.reason <;> simp [Reason.mergeTied, Reason.isFatal]
  simp only [Failure.merge, hfirst, hsecond]
  split
  · cases ‹false = true›
  · split
    · exact hsecond
    · split
      · exact hfirst
      · exact htied

namespace Run

variable {input : Input S.Token} {test : S.Token → Bool} {pos stop : Nat}

theorem token_eq_done (name : String) {t : S.Token} (hnext : input.next? pos = some (t, stop))
    (ht : test t = true) (ctx : Context) (state : State S T) :
    token input test name pos ctx state = .done (.yield t stop) state := by
  have hfound : (input.next? pos).filter (fun pair => test pair.1) = some (t, stop) := by
    rw [hnext, Option.filter_some, if_pos ht]
  show Eval.pure (found name pos ((input.next? pos).filter fun pair => test pair.1)) state = _
  rw [hfound]
  rfl

theorem token_eq_failed (name : String)
    (h : ∀ t stop, input.next? pos = some (t, stop) → test t = false) (ctx : Context)
    (state : State S T) :
    token input test name pos ctx state = .done (.fail (.expecting name) pos) state := by
  have hnone : (input.next? pos).filter (fun pair => test pair.1) = none := by
    refine Option.filter_eq_none_iff.2 fun pair hpair => ?_
    rw [h pair.1 pair.2 hpair]
    exact Bool.false_ne_true
  show Eval.pure (found name pos ((input.next? pos).filter fun pair => test pair.1)) state = _
  rw [hnone]
  rfl

/-- One token after the other is read as long as the test holds. -/
theorem manyFrom_token (name : String) {word : List S.Token} (hword : input.Reads pos word stop)
    (htest : ∀ t ∈ word, test t = true)
    (hstop : ∀ t after, input.next? stop = some (t, after) → test t = false) {rounds : Nat}
    (hrounds : word.length < rounds) (state : State S T) :
    manyFrom (token input test name) rounds pos state = .done (.yield word stop) state := by
  induction word generalizing pos rounds with
  | nil =>
      obtain ⟨left, rfl⟩ : ∃ left, rounds = left + 1 := ⟨rounds - 1, by simp at hrounds; omega⟩
      obtain rfl : stop = pos := hword.stop_eq
      exact manyFrom_succ_eq_done.2 (.inl ⟨_, token_eq_failed name hstop ∅ state, rfl⟩)
  | cons t rest ih =>
      obtain ⟨left, rfl⟩ : ∃ left, rounds = left + 1 := ⟨rounds - 1, by simp at hrounds; omega⟩
      obtain ⟨after, hfirst, hrest⟩ := hword.split_cons
      have htoken := token_eq_done name hfirst.next? (htest t List.mem_cons_self) ∅ state
      have hmoved : after ≠ pos := Nat.ne_of_gt (hfirst.lt (List.cons_ne_nil t []))
      have hothers : manyFrom (token input test name) left after state =
          .done (.yield rest stop) state :=
        ih hrest (fun t ht => htest t (List.mem_cons_of_mem _ ht)) (by simp at hrounds; omega)
      exact manyFrom_succ_eq_done.2
        (.inr (.inr ⟨_, state, htoken, hmoved, _, hothers, rfl⟩))

/-- A repetition of tokens is a first token and the others. -/
theorem many_token (name : String) {word : List S.Token} (hword : input.Reads pos word stop)
    (htest : ∀ t ∈ word, test t = true)
    (hstop : ∀ t after, input.next? stop = some (t, after) → test t = false) {rounds : Nat}
    (hrounds : word.length < rounds) (ctx : Context) (state : State S T) :
    many rounds (token input test name) pos ctx state = .done (.yield word stop) state := by
  cases word with
  | nil =>
      obtain rfl : stop = pos := hword.stop_eq
      exact many_eq_done.2 (.inl ⟨_, token_eq_failed name hstop ctx state, rfl⟩)
  | cons t rest =>
      obtain ⟨after, hfirst, hrest⟩ := hword.split_cons
      have htoken := token_eq_done name hfirst.next? (htest t List.mem_cons_self) ctx state
      have hmoved : after ≠ pos := Nat.ne_of_gt (hfirst.lt (List.cons_ne_nil t []))
      have hothers : manyFrom (token input test name) rounds after state =
          .done (.yield rest stop) state :=
        manyFrom_token name hrest (fun t ht => htest t (List.mem_cons_of_mem _ ht)) hstop
          (by simp at hrounds; omega) state
      exact many_eq_done.2
        (.inr (.inr ⟨_, state, htoken, hmoved, _, hothers, rfl⟩))

end Run

namespace Grammar

variable [MemoTable T]

section Verdicts

variable (G : Grammar S) (input : Input S.Token) (fuel : Nat) (p : Parser S α) (keys : List Key)
variable (pos : Nat) (ctx : Context) (state : State S T)

/-- The parser succeeds with the value where `stop` is, using none but the given keys. -/
def Yields (value : α) (stop : Nat) (next : State S T) : Prop :=
  ∃ used, G.run input fuel p pos ctx state = .done (.success ⟨value, stop, used⟩) next ∧
    ∀ key ∈ used, key ∈ keys

/-- The parser fails so that an alternative may be tried, using none but the given keys. -/
def Refuses (next : State S T) : Prop :=
  ∃ e, G.run input fuel p pos ctx state = .done (.failure e) next ∧ e.isFatal = false ∧
    ∀ key ∈ e.used, key ∈ keys

end Verdicts

variable {G : Grammar S} {input : Input S.Token} {fuel : Nat} {keys : List Key}
variable {pos middle stop : Nat} {ctx : Context} {state between next : State S T}
variable {p : Parser S α} {q : Parser S β} {a : α} {b : β}

theorem Yields.mono {more : List Key} {fuel' : Nat}
    (h : G.Yields input fuel p keys pos ctx state a stop next) (hkeys : ∀ key ∈ keys, key ∈ more)
    (hfuel : fuel ≤ fuel') : G.Yields input fuel' p more pos ctx state a stop next := by
  obtain ⟨used, hrun, hused⟩ := h
  exact ⟨used, (run_le hfuel p pos ctx).done hrun, fun key hkey => hkeys key (hused key hkey)⟩

/-! ## Terminals -/

theorem yields_literal {tokens : List S.Token} (name : String)
    (hread : input.Reads pos tokens stop) (htokens : tokens ≠ []) :
    G.Yields input (fuel + 1) (.literal tokens name) keys pos ctx state tokens stop state := by
  refine ⟨∅, ?_, fun key hkey => nomatch hkey⟩
  show Run.literal input tokens name pos ctx state = _
  unfold Run.literal
  rw [hread.startsWith htokens, hread.stop_eq]
  rfl

theorem refuses_literal {tokens : List S.Token} (name : String)
    (h : input.startsWith pos tokens = false) :
    G.Refuses input (fuel + 1) (.literal tokens name) keys pos ctx state state := by
  refine ⟨⟨.expecting name, pos, ∅⟩, ?_, rfl, fun key hkey => nomatch hkey⟩
  show Run.literal input tokens name pos ctx state = _
  unfold Run.literal
  rw [h]
  rfl

theorem yields_token {test : S.Token → Bool} (name : String) {t : S.Token}
    (hnext : input.next? pos = some (t, stop)) (ht : test t = true) :
    G.Yields input (fuel + 1) (.token test name) keys pos ctx state t stop state :=
  ⟨∅, Run.token_eq_done name hnext ht ctx state, fun _ hkey => nomatch hkey⟩

theorem refuses_token {test : S.Token → Bool} (name : String)
    (h : ∀ t stop, input.next? pos = some (t, stop) → test t = false) :
    G.Refuses input (fuel + 1) (.token test name) keys pos ctx state state :=
  ⟨_, Run.token_eq_failed name h ctx state, rfl, fun _ hkey => nomatch hkey⟩

/-- Tokens are read up to the first one that the test rejects. -/
theorem yields_many_token {test : S.Token → Bool} (name : String) {word : List S.Token}
    (hword : input.Reads pos word stop) (htest : ∀ t ∈ word, test t = true)
    (hstop : ∀ t after, input.next? stop = some (t, after) → test t = false)
    (hfuel : word.length < fuel) :
    G.Yields input (fuel + 1) (.many (.token test name)) keys pos ctx state word stop state :=
  ⟨∅, Run.many_token name hword htest hstop hfuel ctx state, fun _ hkey => nomatch hkey⟩

theorem yields_eof (h : input.extent ≤ pos) :
    G.Yields input (fuel + 1) .eof keys pos ctx state () pos state := by
  refine ⟨∅, ?_, fun key hkey => nomatch hkey⟩
  show Run.eof input pos ctx state = _
  unfold Run.eof
  rw [if_pos h]
  rfl

theorem refuses_eof (h : pos < input.extent) :
    G.Refuses input (fuel + 1) .eof keys pos ctx state state := by
  refine ⟨⟨.expecting "EOF", pos, ∅⟩, ?_, rfl, fun key hkey => nomatch hkey⟩
  show Run.eof input pos ctx state = _
  unfold Run.eof
  rw [if_neg (Nat.not_le.2 h)]
  rfl

/-! ## Sequences -/

theorem Yields.tryMap {f : α → Except Fault β}
    (h : G.Yields input fuel p keys pos ctx state a stop next) (hf : f a = .ok b) :
    G.Yields input fuel (.tryMap f p) keys pos ctx state b stop next := by
  obtain ⟨used, hrun, hused⟩ := h
  refine ⟨used, ?_, hused⟩
  rw [run_tryMap]
  exact Run.tryMap_eq_done.2 (.inr ⟨_, b, hrun, hf, rfl⟩)

theorem Refuses.tryMap (f : α → Except Fault β)
    (h : G.Refuses input fuel p keys pos ctx state next) :
    G.Refuses input fuel (.tryMap f p) keys pos ctx state next := by
  obtain ⟨e, hrun, he⟩ := h
  refine ⟨e, ?_, he⟩
  rw [run_tryMap]
  exact Run.tryMap_eq_done.2 (.inl ⟨e, hrun, rfl⟩)

theorem Yields.zipWith (f : α → β → γ)
    (hp : G.Yields input fuel p keys pos ctx state a middle between)
    (hq : G.Yields input fuel q keys middle (ctx.carried pos middle) between b stop next) :
    G.Yields input fuel (.zipWith f p q) keys pos ctx state (f a b) stop next := by
  obtain ⟨first, hfirst, hfirstUsed⟩ := hp
  obtain ⟨second, hsecond, hsecondUsed⟩ := hq
  refine ⟨Used.sequenced pos stop first second, ?_, fun key hkey => ?_⟩
  · rw [run_zipWith]
    exact Run.zipWith_eq_done.2 (.inr ⟨_, between, hfirst, _, hsecond, rfl⟩)
  · rcases Used.of_mem_sequenced hkey with hkey | hkey
    · exact hfirstUsed key hkey
    · exact hsecondUsed key hkey

/-- What follows a part uses no keys that matter once the whole has moved on. -/
theorem Yields.zipWith_of_ne (f : α → β → γ) {others : List Key}
    (hp : G.Yields input fuel p keys pos ctx state a middle between)
    (hq : G.Yields input fuel q others middle (ctx.carried pos middle) between b stop next)
    (hmoved : pos ≠ stop) :
    G.Yields input fuel (.zipWith f p q) keys pos ctx state (f a b) stop next := by
  obtain ⟨first, hfirst, hfirstUsed⟩ := hp
  obtain ⟨second, hsecond, -⟩ := hq
  have hused : Used.sequenced pos stop first second = first := if_neg hmoved
  refine ⟨Used.sequenced pos stop first second, ?_, by rwa [hused]⟩
  rw [run_zipWith]
  exact Run.zipWith_eq_done.2 (.inr ⟨_, between, hfirst, _, hsecond, rfl⟩)

/-- Where the first part fails, the whole fails alike. -/
theorem run_zipWith_of_failure (f : α → β → γ) (q : Parser S β) {e : Failure}
    (hp : G.run input fuel p pos ctx state = .done (.failure e) next) :
    G.run input fuel (.zipWith f p q) pos ctx state = .done (.failure e) next := by
  rw [run_zipWith]
  exact Run.zipWith_eq_done.2 (.inl ⟨e, hp, rfl⟩)

theorem Refuses.zipWith_left (f : α → β → γ) (q : Parser S β)
    (hp : G.Refuses input fuel p keys pos ctx state next) :
    G.Refuses input fuel (.zipWith f p q) keys pos ctx state next := by
  obtain ⟨e, hrun, he⟩ := hp
  exact ⟨e, run_zipWith_of_failure f q hrun, he⟩

theorem Refuses.zipWith_right (f : α → β → γ)
    (hp : G.Yields input fuel p keys pos ctx state a middle between)
    (hq : G.Refuses input fuel q keys middle (ctx.carried pos middle) between next) :
    G.Refuses input fuel (.zipWith f p q) keys pos ctx state next := by
  obtain ⟨first, hfirst, hfirstUsed⟩ := hp
  obtain ⟨e, hsecond, he, hsecondUsed⟩ := hq
  refine ⟨{ e with used := Used.sequenced pos e.pos first e.used }, ?_, he, fun key hkey => ?_⟩
  · rw [run_zipWith]
    exact Run.zipWith_eq_done.2 (.inr ⟨_, between, hfirst, _, hsecond, rfl⟩)
  · rcases Used.of_mem_sequenced hkey with hkey | hkey
    · exact hfirstUsed key hkey
    · exact hsecondUsed key hkey

/-! ## Choice -/

theorem Yields.alt_left (q : Parser S α)
    (h : G.Yields input fuel p keys pos ctx state a stop next) :
    G.Yields input fuel (.alt p q) keys pos ctx state a stop next := by
  obtain ⟨used, hrun, hused⟩ := h
  refine ⟨used, ?_, hused⟩
  rw [run_alt]
  exact Run.alt_eq_done.2 (.inl ⟨_, hrun, rfl⟩)

theorem Yields.alt_right {q : Parser S α}
    (hp : G.Refuses input fuel p keys pos ctx state between)
    (hq : G.Yields input fuel q keys pos ctx between a stop next) :
    G.Yields input fuel (.alt p q) keys pos ctx state a stop next := by
  obtain ⟨e, hfirst, he, hfirstUsed⟩ := hp
  obtain ⟨used, hsecond, hused⟩ := hq
  refine ⟨e.used.union used, ?_, fun key hkey => ?_⟩
  · rw [run_alt]
    exact Run.alt_eq_done.2 (.inr (.inr ⟨e, between, hfirst, he, .inl ⟨_, hsecond, rfl⟩⟩))
  · rcases Used.mem_union.1 hkey with hkey | hkey
    · exact hfirstUsed key hkey
    · exact hused key hkey

theorem Refuses.alt {q : Parser S α} (hp : G.Refuses input fuel p keys pos ctx state between)
    (hq : G.Refuses input fuel q keys pos ctx between next) :
    G.Refuses input fuel (.alt p q) keys pos ctx state next := by
  obtain ⟨e, hfirst, he, hfirstUsed⟩ := hp
  obtain ⟨e', hsecond, he', hsecondUsed⟩ := hq
  refine ⟨e.merge e', ?_, Failure.isFatal_merge he he', fun key hkey => ?_⟩
  · rw [run_alt]
    exact Run.alt_eq_done.2 (.inr (.inr ⟨e, between, hfirst, he, .inr ⟨e', hsecond, rfl⟩⟩))
  · rw [Failure.used_merge] at hkey
    rcases Used.mem_union.1 hkey with hkey | hkey
    · exact hfirstUsed key hkey
    · exact hsecondUsed key hkey

theorem Yields.label (name : String)
    (h : G.Yields input fuel p keys pos ctx state a stop next) :
    G.Yields input fuel (.label name p) keys pos ctx state a stop next := by
  obtain ⟨used, hrun, hused⟩ := h
  refine ⟨used, ?_, hused⟩
  rw [run_label]
  exact Run.label_eq_done.2 ⟨_, hrun, rfl⟩

theorem Refuses.label (name : String) (h : G.Refuses input fuel p keys pos ctx state next) :
    G.Refuses input fuel (.label name p) keys pos ctx state next := by
  obtain ⟨e, hrun, he, hused⟩ := h
  have hsame : (Run.relabel name pos e).isFatal = false := by
    unfold Run.relabel
    split
    · exact he
    · rfl
  refine ⟨Run.relabel name pos e, ?_, hsame, ?_⟩
  · rw [run_label]
    exact Run.label_eq_done.2 ⟨_, hrun, rfl⟩
  · rw [Run.used_relabel]
    exact hused

/-! ## Words of a text -/

section Words

variable {ρ ν : Type} {G : Grammar (TextSignature ρ ν)} {input : Input (TextSignature ρ ν).Token}
variable {state : State (TextSignature ρ ν) T} {word : String}

theorem yields_text (hread : input.Reads pos word.toList stop) (hword : word.toList ≠ []) :
    G.Yields input (fuel + 1) (.text word) keys pos ctx state (String.ofList word.toList) stop
      state :=
  (yields_literal word hread hword).tryMap rfl

theorem refuses_text (hword : input.startsWith pos word.toList = false) :
    G.Refuses input (fuel + 1) (.text word) keys pos ctx state state :=
  (refuses_literal word hword).tryMap _

end Words

/-! ## Memoized rules -/

section Rules

variable {rule : S.Rule} {parity : Parity} {key : Key} {body : Parser S (S.Value (S.kind rule))}
variable (hdefine : G.define rule = some (.memo (S.kind rule) parity key body))

include hdefine

/-- A rule one unit of fuel further in is memoized. -/
theorem run_memoized (fuel : Nat) :
    (G.run input (fuel + 2) (.ref rule) : Run S T (S.Value (S.kind rule))) =
      Run.memo input (S.kind rule) parity key (G.run input (fuel + 1) body) := by
  rw [run_ref, call_rule hdefine]
  rfl

/-- Past the bound the rule is curtailed, and nothing is stored. -/
theorem run_curtailed (fuel : Nat) (hentry : state.lookup (S.kind rule) key pos = none)
    (hdepth : Run.depthBound (input.remaining pos) < ctx.depth key) :
    G.run input (fuel + 2) (.ref rule) pos ctx state =
      .done (.failure { reason := .curtailment, pos, used := .single key })
        (state.note (.curtailed key pos (ctx.depth key))) := by
  have hmissed : Run.Missed state (S.kind rule) key pos ctx := by
    intro o under hlookup
    rw [hentry] at hlookup
    cases hlookup
  rw [run_memoized hdefine, Run.memo_of_missed hmissed, if_pos hdepth]

/-- Past the bound the rule refuses. -/
theorem refuses_curtailed (fuel : Nat) (hkey : key ∈ keys)
    (hentry : state.lookup (S.kind rule) key pos = none)
    (hdepth : Run.depthBound (input.remaining pos) < ctx.depth key) :
    ∃ next, G.Refuses input (fuel + 2) (.ref rule) keys pos ctx state next ∧
      next.memo = state.memo := by
  refine ⟨_, ⟨_, run_curtailed hdefine fuel hentry hdepth, rfl, fun other hother => ?_⟩, rfl⟩
  have hsame : other = key := List.mem_singleton.1 hother
  rw [hsame]
  exact hkey

/-- Within the bound the rule keeps what its body comes to or the success that it has stored, and
stores nothing but that. -/
theorem run_kept [LawfulMemoTable T] (hlength : input.tokens.length < 2 ^ 32 - 2)
    (hentry : state.lookup (S.kind rule) key pos = none)
    (hdepth : ctx.depth key ≤ input.remaining pos + 1) {fresh : Outcome (S.Value (S.kind rule))}
    (hbody : G.run input (fuel + 1) body pos (ctx.withDepth key (ctx.depth key + 1)) state =
      .done fresh between) :
    ∃ kept next, G.run input (fuel + 2) (.ref rule) pos ctx state = .done kept next ∧
      (Run.keep input (S.kind rule) parity key pos ctx fresh between).1 = kept ∧
      next.lookup (S.kind rule) key pos = some (kept, ctx.pruned kept.used) ∧
      between.SameOn (fun slot => slot ≠ (key, pos)) next := by
  have hmissed : Run.Missed state (S.kind rule) key pos ctx := by
    intro o under hlookup
    rw [hentry] at hlookup
    cases hlookup
  have hbound : ctx.depth key ≤ Run.depthBound (input.remaining pos) := by
    have hremaining := input.remaining_le_length pos
    simp only [Run.depthBound, Context.depthLimit]
    omega
  refine ⟨_, _, ?_, rfl, Run.lookup_keep_self, Run.sameOn_keep fun hne => hne rfl⟩
  rw [run_memoized hdefine]
  exact Run.memo_of_body parity hmissed hbound (Run.depth_lt_depthLimit hlength hbound) hbody

end Rules

/-! ## Whole parses -/

/-- At the end of the input nothing is left to be done. -/
theorem Yields.complete
    (h : G.Yields input (fuel + 1) p keys pos ctx state a input.extent next) :
    ∃ s after, G.run input (fuel + 1) p.complete pos ctx state = .done (.success s) after ∧
      s.value = a := by
  obtain ⟨used, hrun, -⟩ := h.zipWith (fun a (_ : Unit) => a) (yields_eof (Nat.le_refl _))
  exact ⟨_, next, hrun, rfl⟩

/-- A parse is a run from an empty table, and notes how it ended. -/
theorem parse_eq_done {consumeAll : Bool} {o : Outcome α} {after : State S T} :
    G.parse fuel input consumeAll p state = .done o after ↔
      ∃ middle, G.run input fuel (if consumeAll then p.complete else p) 0 ∅ state.clear =
          .done o middle ∧
        after = middle.note (o.event input.extent (MemoTable.size middle.memo)) := by
  constructor
  · intro hparse
    obtain ⟨_, _, hclear, hrest⟩ := Eval.bind_eq_done.1 hparse
    obtain ⟨-, rfl⟩ := Result.done.inj hclear
    obtain ⟨o', middle, hrun, hlast⟩ := Eval.bind_eq_done.1 hrest
    obtain ⟨_, _, hnote, hpure⟩ := Eval.bind_eq_done.1 hlast
    obtain ⟨rfl, rfl⟩ := Eval.pure_eq_done.1 hpure
    exact ⟨middle, hrun, (Result.done.inj hnote).2.symm⟩
  · rintro ⟨middle, hrun, rfl⟩
    exact Eval.bind_eq_done.2 ⟨(), state.clear, rfl,
      Eval.bind_eq_done.2 ⟨o, middle, hrun, Eval.bind_eq_done.2 ⟨(), _, rfl, rfl⟩⟩⟩

theorem parse_eq_success :
    (∃ s after, G.parse fuel input true p state = .done (.success s) after ∧ s.value = a) ↔
      ∃ s after, G.run input fuel p.complete 0 ∅ state.clear = .done (.success s) after ∧
        s.value = a := by
  constructor
  · rintro ⟨s, after, hparse, ha⟩
    obtain ⟨middle, hrun, -⟩ := parse_eq_done.1 hparse
    exact ⟨s, middle, hrun, ha⟩
  · rintro ⟨s, middle, hrun, ha⟩
    exact ⟨s, _, parse_eq_done.2 ⟨middle, hrun, rfl⟩, ha⟩

end Grammar

end LeftRec
