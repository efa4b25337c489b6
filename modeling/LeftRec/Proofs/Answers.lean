import LeftRec.Proofs.Yields

/-!
# Answers — runs that see nothing but the input

Parsers that enter no memoized rule neither look at the context and the state nor change them.
What such a parser gives at a position, or that it rejects what stands there, is then a matter of
the input alone.  A repetition of it gives a series of items, and items with a separator between
them are such a series.
-/

namespace LeftRec

namespace Input

variable {τ : Type} {input : Input τ} {pos stop : Nat} {word : List τ}

/-- Each token has a width. -/
theorem Reads.add_length_le (h : input.Reads pos word stop) : pos + word.length ≤ stop := by
  induction word generalizing pos with
  | nil => exact h.le
  | cons t rest ih =>
      obtain ⟨middle, hfirst, hrest⟩ := h.split_cons
      have hmoved := hfirst.lt (List.cons_ne_nil t [])
      have hothers := ih hrest
      rw [List.length_cons]
      omega

/-- The whole input may be read. -/
theorem reads_tokens (input : Input τ) : input.Reads 0 input.tokens input.extent := by
  have hrest : input.rest 0 = input.tokens := rest_of_append (List.nil_append input.tokens).symm
  rw [← hrest]
  exact reads_rest boundary_zero

end Input

variable {S : Signature} {T : Type → Type} {α β : Type}

theorem Used.eq_empty_of_mem {used : Used} (h : ∀ key ∈ used, key ∈ ([] : List Key)) :
    used = ∅ := by
  have hkeys : used.keys = [] := List.eq_nil_iff_forall_not_mem.2 fun key hkey => nomatch h key hkey
  exact Used.ext hkeys

namespace Grammar

variable [MemoTable T] {G : Grammar S} {input : Input S.Token} {fuel : Nat}
variable {pos middle stop : Nat} {ctx : Context} {state next : State S T}

/-- What uses no keys is a plain success. -/
theorem Yields.run_eq {p : Parser S α} {a : α}
    (h : G.Yields input fuel p [] pos ctx state a stop next) :
    G.run input fuel p pos ctx state = .done (.yield a stop) next := by
  obtain ⟨used, hrun, hused⟩ := h
  obtain rfl := Used.eq_empty_of_mem hused
  exact hrun

theorem yields_scan {f : List S.Token → Option (Nat × α)} (name : String) {keys : List Key}
    {word : List S.Token} {a : α} (hread : input.Reads pos word stop)
    (hf : f (input.rest pos) = some (word.length, a)) :
    G.Yields input (fuel + 1) (.scan f name) keys pos ctx state a stop state := by
  have htake : (input.rest pos).take word.length = word := by
    rw [hread.rest_eq, List.take_left]
  have hrun : G.run input (fuel + 1) (.scan f name) pos ctx state =
      .done (.yield a (pos + Input.span input.width ((input.rest pos).take word.length)))
        state := by
    show Run.scan input f name pos ctx state = _
    simp only [Run.scan, hf]
    rfl
  rw [htake, ← hread.stop_eq] at hrun
  exact ⟨∅, hrun, fun _ hkey => nomatch hkey⟩

theorem refuses_scan {f : List S.Token → Option (Nat × α)} (name : String) {keys : List Key}
    (hf : f (input.rest pos) = none) :
    G.Refuses input (fuel + 1) (.scan f name) keys pos ctx state state := by
  have hrun : G.run input (fuel + 1) (.scan f name) pos ctx state =
      .done (.fail (.expecting name) pos) state := by
    show Run.scan input f name pos ctx state = _
    simp only [Run.scan, hf]
    rfl
  exact ⟨_, hrun, rfl, fun _ hkey => nomatch hkey⟩

theorem Refuses.bind {p : Parser S α} {keys : List Key} (f : α → Parser S β)
    (h : G.Refuses input fuel p keys pos ctx state next) :
    G.Refuses input fuel (.bind p f) keys pos ctx state next := by
  obtain ⟨e, hrun, he⟩ := h
  refine ⟨e, ?_, he⟩
  rw [run_bind]
  exact Run.bind_eq_done.2 (.inl ⟨e, hrun, rfl⟩)

/-- A committed parser is as good as the parser itself where it succeeds. -/
theorem Yields.commit {p : Parser S α} {keys : List Key} {a : α}
    (h : G.Yields input fuel p keys pos ctx state a stop next) :
    G.Yields input fuel (.commit p) keys pos ctx state a stop next := by
  obtain ⟨used, hrun, hused⟩ := h
  refine ⟨used, ?_, hused⟩
  rw [run_commit]
  exact Run.commit_eq_done.2 ⟨_, hrun, rfl⟩

/-! ## Words under a name -/

section Words

variable {test : S.Token → Bool} {word : List S.Token} {f : List S.Token → Except Fault β}

/-- A word is read up to the first token that is none of its own. -/
theorem yields_many1_token (name : String) {keys : List Key}
    (hword : input.Reads pos word stop) (hne : word ≠ []) (htest : ∀ t ∈ word, test t = true)
    (hstop : ∀ t after, input.next? stop = some (t, after) → test t = false)
    (hfuel : word.length ≤ fuel) :
    G.Yields input (fuel + 1) (.many1 (.token test name)) keys pos ctx state word stop state := by
  cases word with
  | nil => exact absurd rfl hne
  | cons t rest =>
      obtain ⟨after, hfirst, hrest⟩ := hword.split_cons
      have hothers : G.Yields input (fuel + 1) (.many (.token test name)) keys after
          (ctx.carried pos after) state rest stop state :=
        yields_many_token name hrest (fun u hu => htest u (List.mem_cons_of_mem t hu)) hstop hfuel
      exact (yields_token name hfirst.next? (htest t List.mem_cons_self)).zipWith (· :: ·) hothers

/-- The word is as long as it can be, and what it is made into decides. -/
theorem run_word (name what : String) (hword : input.Reads pos word stop) (hne : word ≠ [])
    (htest : ∀ t ∈ word, test t = true)
    (hstop : ∀ t after, input.next? stop = some (t, after) → test t = false)
    (hfuel : word.length ≤ fuel) :
    G.run input (fuel + 1) (.label name (.tryMap f (Parser.token test what).many1)) pos ctx state =
      ((fun value => Outcome.yield value stop) <$> Eval.ofExcept (f word)) state := by
  have hmany : G.run input (fuel + 1) (Parser.token test what).many1 pos ctx state =
      .done (.yield word stop) state :=
    (yields_many1_token what hword hne htest hstop hfuel).run_eq
  simp only [run_label, run_tryMap, Run.label, Run.tryMap, Eval.bind_apply, hmany, Outcome.yield]
  cases f word <;> rfl

/-- Where no word begins, its name is what was expected. -/
theorem run_word_of_none (name what : String)
    (hnone : ∀ t after, input.next? pos = some (t, after) → test t = false) :
    G.run input (fuel + 1) (.label name (.tryMap f (Parser.token test what).many1)) pos ctx state =
      .done (.fail (.expecting name) pos) state := by
  have hfirst : G.run input (fuel + 1) (.token test what) pos ctx state =
      .done (.fail (.expecting what) pos) state := Run.token_eq_failed what hnone ctx state
  have hmany : G.run input (fuel + 1) (Parser.token test what).many1 pos ctx state =
      .done (.fail (.expecting what) pos) state := run_zipWith_of_failure (· :: ·) _ hfirst
  rw [run_label, run_tryMap]
  refine Run.label_eq_done.2 ⟨_, Run.tryMap_eq_done.2 (.inl ⟨_, hmany, rfl⟩), ?_⟩
  simp [Outcome.fail, Outcome.mapFailure, Run.relabel, Failure.isFatal, Reason.expecting,
    Reason.isFatal]

end Words

/-! ## Giving and rejecting -/

section Verdicts

variable (T) (G : Grammar S) (input : Input S.Token) (fuel : Nat) (p : Parser S α)

/-- The parser takes what stands between the two positions for the value, and that is all it
does. -/
def Gives (pos : Nat) (value : α) (stop : Nat) : Prop :=
  ∀ ctx (state : State S T), G.Yields input fuel p [] pos ctx state value stop state

/-- The parser refuses what stands at the position, and that is all it does. -/
def Rejects (pos : Nat) : Prop :=
  ∀ ctx (state : State S T), G.Refuses input fuel p [] pos ctx state state

/-- The parser gives one item after the other, moving on with each, and rejects what stands behind
the last one. -/
inductive Series : Nat → List α → Nat → Prop
  | nil {pos : Nat} : Rejects T G input fuel p pos → Series pos [] pos
  | cons {pos middle stop : Nat} {item : α} {rest : List α} :
      Gives T G input fuel p pos item middle → pos < middle → Series middle rest stop →
        Series pos (item :: rest) stop

end Verdicts

variable {p p' : Parser S α} {q : Parser S β} {a : α} {b : β} {items : List α} {γ : Type}

namespace Gives

theorem tryMap {f : α → Except Fault β} (hf : f a = .ok b) (h : Gives T G input fuel p pos a stop) :
    Gives T G input fuel (.tryMap f p) pos b stop := fun ctx state => (h ctx state).tryMap hf

theorem zipWith (f : α → β → γ) (hp : Gives T G input fuel p pos a middle)
    (hq : Gives T G input fuel q middle b stop) :
    Gives T G input fuel (.zipWith f p q) pos (f a b) stop := fun ctx state =>
  (hp ctx state).zipWith f (hq _ state)

theorem alt_left (h : Gives T G input fuel p pos a stop) :
    Gives T G input fuel (p ||| p') pos a stop := fun ctx state => (h ctx state).alt_left p'

theorem alt_right (h : Rejects T G input fuel p pos) (h' : Gives T G input fuel p' pos a stop) :
    Gives T G input fuel (p ||| p') pos a stop := fun ctx state =>
  Yields.alt_right (h ctx state) (h' ctx state)

theorem label (name : String) (h : Gives T G input fuel p pos a stop) :
    Gives T G input fuel (.label name p) pos a stop := fun ctx state => (h ctx state).label name

theorem commit (h : Gives T G input fuel p pos a stop) :
    Gives T G input fuel (.commit p) pos a stop := fun ctx state => (h ctx state).commit

end Gives

namespace Rejects

theorem tryMap (f : α → Except Fault β) (h : Rejects T G input fuel p pos) :
    Rejects T G input fuel (.tryMap f p) pos := fun ctx state => (h ctx state).tryMap f

theorem zipWith (f : α → β → γ) (q : Parser S β) (h : Rejects T G input fuel p pos) :
    Rejects T G input fuel (.zipWith f p q) pos := fun ctx state => (h ctx state).zipWith_left f q

theorem bind (f : α → Parser S β) (h : Rejects T G input fuel p pos) :
    Rejects T G input fuel (.bind p f) pos := fun ctx state => (h ctx state).bind f

theorem alt (h : Rejects T G input fuel p pos) (h' : Rejects T G input fuel p' pos) :
    Rejects T G input fuel (p ||| p') pos := fun ctx state => (h ctx state).alt (h' ctx state)

theorem label (name : String) (h : Rejects T G input fuel p pos) :
    Rejects T G input fuel (.label name p) pos := fun ctx state => (h ctx state).label name

end Rejects

theorem gives_empty : Gives T G input (fuel + 1) Parser.empty pos () pos := fun _ _ =>
  ⟨∅, rfl, fun _ hkey => nomatch hkey⟩

/-- The end of the input is where nothing is left. -/
theorem gives_eof : Gives T G input (fuel + 1) .eof input.extent () input.extent := fun _ _ =>
  yields_eof (Nat.le_refl _)

section Rules

variable {rule : S.Rule} {body : Parser S (S.Value (S.kind rule))} {a : S.Value (S.kind rule)}

/-- A rule gives what its definition gives. -/
theorem Gives.ref (hdefine : G.define rule = some body)
    (h : Gives T G input fuel body pos a stop) :
    Gives T G input (fuel + 1) (.ref rule) pos a stop := by
  intro ctx state
  obtain ⟨used, hrun, hused⟩ := h ctx state
  refine ⟨used, ?_, hused⟩
  rw [run_ref, call_rule hdefine]
  exact hrun

theorem Rejects.ref (hdefine : G.define rule = some body)
    (h : Rejects T G input fuel body pos) : Rejects T G input (fuel + 1) (.ref rule) pos := by
  intro ctx state
  obtain ⟨e, hrun, he⟩ := h ctx state
  refine ⟨e, ?_, he⟩
  rw [run_ref, call_rule hdefine]
  exact hrun

end Rules

/-- What is given from the start to the end of the input is the result of a whole parse. -/
theorem Gives.parse (h : Gives T G input (fuel + 1) p 0 a input.extent) (state : State S T) :
    ∃ after, G.parse (fuel + 1) input true p state = .done (.yield a input.extent) after := by
  have hcomplete : Gives T G input (fuel + 1) p.complete 0 a input.extent :=
    h.zipWith (fun a _ => a) gives_eof
  exact ⟨_, parse_eq_done.2 ⟨_, (hcomplete ∅ state.clear).run_eq, rfl⟩⟩

/-! ## Repetition -/

/-- Each item takes a place of its own. -/
theorem Series.add_length_le (h : Series T G input fuel p pos items stop) :
    pos + items.length ≤ stop := by
  induction h with
  | nil _ => exact Nat.le_refl _
  | cons _ hmoved _ ih =>
      rw [List.length_cons]
      omega

theorem Series.run_manyFrom (h : Series T G input (fuel + 1) p pos items stop) {rounds : Nat}
    (hrounds : items.length < rounds) (state : State S T) :
    Run.manyFrom (G.run input (fuel + 1) p) rounds pos state = .done (.yield items stop) state := by
  obtain ⟨left, rfl⟩ : ∃ left, rounds = left + 1 := ⟨rounds - 1, by omega⟩
  induction h generalizing left with
  | nil hlast =>
      obtain ⟨e, hrun, he, -⟩ := hlast ∅ state
      refine Run.manyFrom_succ_eq_done.2 (.inl ⟨e, hrun, ?_⟩)
      rw [he]
      rfl
  | cons hitem hmoved _ ih =>
      obtain ⟨fewer, rfl⟩ : ∃ fewer, left = fewer + 1 := ⟨left - 1, by simp at hrounds; omega⟩
      have hothers := ih fewer (by simpa using hrounds)
      exact Run.manyFrom_succ_eq_done.2
        (.inr (.inr ⟨_, state, (hitem ∅ state).run_eq, Nat.ne_of_gt hmoved, _, hothers, rfl⟩))

theorem Series.many (h : Series T G input (fuel + 1) p pos items stop)
    (hfuel : items.length < fuel) : Gives T G input (fuel + 1) p.many pos items stop := by
  intro ctx state
  cases h with
  | nil hlast =>
      obtain ⟨e, hrun, he, hused⟩ := hlast ctx state
      refine ⟨e.used, Run.many_eq_done.2 (.inl ⟨e, hrun, ?_⟩), hused⟩
      rw [he]
      rfl
  | cons hitem hmoved hrest =>
      have hfewer := Nat.lt_of_succ_lt hfuel
      have hothers := hrest.run_manyFrom hfewer state
      exact ⟨∅, Run.many_eq_done.2
        (.inr (.inr ⟨_, state, (hitem ctx state).run_eq, Nat.ne_of_gt hmoved, _, hothers, rfl⟩)),
        fun _ hkey => nomatch hkey⟩

theorem Series.many1 (h : Series T G input (fuel + 1) p pos items stop) (hne : items ≠ [])
    (hfuel : items.length ≤ fuel) : Gives T G input (fuel + 1) p.many1 pos items stop := by
  cases h with
  | nil _ => exact absurd rfl hne
  | cons hitem _ hrest => exact hitem.zipWith (· :: ·) (hrest.many hfuel)

/-! ## Separated lists -/

theorem Gives.separated (hp : Gives T G input (fuel + 1) p pos a middle)
    (hq : Gives T G input (fuel + 1) q middle b stop) :
    Gives T G input (fuel + 1) (p.separated q) pos a stop := by
  have hyielding : Gives T G input (fuel + 1) (q.yielding ()) middle () stop := hq.tryMap rfl
  exact hp.zipWith (fun a _ => a) hyielding.alt_left

theorem Gives.separated_of_rejects (hp : Gives T G input (fuel + 1) p pos a stop)
    (hq : Rejects T G input (fuel + 1) q stop) :
    Gives T G input (fuel + 1) (p.separated q) pos a stop := by
  have hyielding : Rejects T G input (fuel + 1) (q.yielding ()) stop := hq.tryMap _
  exact hp.zipWith (fun a _ => a) (Gives.alt_right hyielding gives_empty)

theorem Rejects.separated (hp : Rejects T G input (fuel + 1) p pos) :
    Rejects T G input (fuel + 1) (p.separated q) pos := hp.zipWith (fun a _ => a) _

section Lists

variable {ξ : Type} {text : ξ → List S.Token} {value : ξ → α} {separator : List S.Token}
variable {xs : List ξ}

/-- Items with a separator between them are a series, whether or not one more separator stands
behind the last.  Each item is to be given where a separator follows or the list ends, each
separator where an item follows. -/
theorem series_of_intercalate
    (hread : input.Reads pos (separator.intercalate (xs.map text)) middle)
    (hne : ∀ x ∈ xs, text x ≠ [])
    (hitem : ∀ x ∈ xs, ∀ i j, pos ≤ i → j ≤ middle → input.Reads i (text x) j →
      j = middle ∨ (∃ k, input.Reads j separator k) →
        Gives T G input (fuel + 1) p i (value x) j)
    (hseparator : ∀ x ∈ xs, ∀ i j k, input.Reads i separator j → input.Reads j (text x) k →
      ∃ b, Gives T G input (fuel + 1) q i b j)
    (hclose : stop = middle ∧ Rejects T G input (fuel + 1) q middle ∨
      xs ≠ [] ∧ middle ≤ stop ∧ ∃ b, Gives T G input (fuel + 1) q middle b stop)
    (hend : Rejects T G input (fuel + 1) p stop) :
    Series T G input (fuel + 1) (p.separated q) pos (xs.map value) stop := by
  induction xs generalizing pos with
  | nil =>
      rcases hclose with ⟨rfl, -⟩ | ⟨hnil, -⟩
      · rw [List.map_nil, List.intercalate_nil] at hread
        obtain rfl : stop = pos := hread.stop_eq
        exact .nil hend.separated
      · exact absurd rfl hnil
  | cons x rest ih =>
      have hx : x ∈ x :: rest := List.mem_cons_self
      cases rest with
      | nil =>
          -- The last item has the closing separator or nothing behind it.
          have hlast : input.Reads pos (text x) middle := by simpa using hread
          have hmoved := hlast.lt (hne x hx)
          have hgives := hitem x hx pos middle (Nat.le_refl _) (Nat.le_refl _) hlast (.inl rfl)
          rcases hclose with ⟨rfl, hrejects⟩ | ⟨-, hle, b, hclose⟩
          · exact .cons (hgives.separated_of_rejects hrejects) (by omega) (.nil hend.separated)
          · exact .cons (hgives.separated hclose) (by omega) (.nil hend.separated)
      | cons y rest =>
          have hy : y ∈ x :: y :: rest := List.mem_cons_of_mem x List.mem_cons_self
          have hparts : input.Reads pos
              (text x ++ (separator ++ separator.intercalate ((y :: rest).map text))) middle := by
            simpa [List.intercalate_cons_cons] using hread
          obtain ⟨i, hfirst, hbehind⟩ := hparts.split
          obtain ⟨j, hsep, hothers⟩ := hbehind.split
          obtain ⟨k, hnext⟩ : ∃ k, input.Reads j (text y) k := by
            cases rest with
            | nil => exact ⟨middle, by simpa using hothers⟩
            | cons z rest =>
                have hparts : input.Reads j
                    (text y ++ (separator ++ separator.intercalate ((z :: rest).map text)))
                    middle := by
                  simpa [List.intercalate_cons_cons] using hothers
                obtain ⟨k, hnext, -⟩ := hparts.split
                exact ⟨k, hnext⟩
          have hmoved := hfirst.lt (hne x hx)
          have hbetween := hsep.le
          have hgives := hitem x hx pos i (Nat.le_refl _) hbehind.le hfirst (.inr ⟨j, hsep⟩)
          obtain ⟨b, hcloses⟩ := hseparator y hy i j k hsep hnext
          have hrest := ih hothers (fun u hu => hne u (List.mem_cons_of_mem x hu))
            (fun u hu i' j' hi => hitem u (List.mem_cons_of_mem x hu) i' j' (by omega))
            (fun u hu => hseparator u (List.mem_cons_of_mem x hu))
            (hclose.imp_right fun h => ⟨List.cons_ne_nil y rest, h.2⟩)
          exact .cons (hgives.separated hcloses) (by omega) hrest

end Lists

end Grammar

end LeftRec
