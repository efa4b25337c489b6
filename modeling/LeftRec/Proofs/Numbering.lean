import LeftRec.Proofs.Moves

/-!
# Numbering — the groups of what is read

The whole match is kept under the number zero.  The groups of an expression are counted from one on,
in the order in which they are opened, so none of them is taken for the whole match.
-/

namespace LeftRec
namespace Regex

/-! ## Expressions -/

namespace Node

/-- Every group has a number other than that of the whole match. -/
def IsNumbered : Node → Prop
  | .empty | .set _ | .look .. => True
  | .group index r => 0 < index ∧ r.IsNumbered
  | .seq r s | .alt r s => r.IsNumbered ∧ s.IsNumbered
  | .rep _ _ _ r => r.IsNumbered

theorem isNumbered_repeated {r : Node} (hr : r.IsNumbered) (least : Nat) (most : Option Nat)
    (greedy : Bool) : (repeated least most greedy r).IsNumbered := by
  unfold repeated
  split
  split
  · exact True.intro
  · exact hr
  · exact hr

theorem isNumbered_concat {rs : List Node} (hrs : ∀ r ∈ rs, r.IsNumbered) :
    (concat rs).IsNumbered := by
  fun_induction concat rs with
  | case1 => exact True.intro
  | case2 r => exact hrs r (List.mem_singleton_self r)
  | case3 r rest _ ih => exact ⟨hrs r List.mem_cons_self, ih fun s hs => hrs s (.tail r hs)⟩

theorem isNumbered_choice {rs : List Node} (hrs : ∀ r ∈ rs, r.IsNumbered) :
    (choice rs).IsNumbered := by
  fun_induction choice rs with
  | case1 => exact True.intro
  | case2 r => exact hrs r (List.mem_singleton_self r)
  | case3 r rest _ ih => exact ⟨hrs r List.mem_cons_self, ih fun s hs => hrs s (.tail r hs)⟩

end Node

/-! ## Moves -/

theorem isNumbered_nodeOfSet? {flags : Flags} {s : CharSet} {r : Node}
    (h : nodeOfSet? flags s = some r) : r.IsNumbered := by
  obtain ⟨_, hr⟩ := Option.ite_none_right_eq_some.1 h
  obtain rfl := Option.some.inj hr
  exact True.intro

theorem isNumbered_node? {flags : Flags} {atom : Atom} {r : Node}
    (h : atom.node? flags = some r) : r.IsNumbered := by
  cases atom with
  | char c | byte c =>
      simp only [Atom.node?] at h
      split_ifs at h <;> exact Option.some.inj h ▸ True.intro
  | set s => exact isNumbered_nodeOfSet? h
  | look kind => exact Option.some.inj h ▸ True.intro

namespace Move

/-- What a move adds has numbered groups. -/
def IsNumbered : Move → Prop
  | .push r => r.value.IsNumbered
  | _ => True

theorem isNumbered_push {x : Option Node} {depth : Nat} {rest left : List Char} {m : Move}
    (hx : ∀ r, x = some r → r.IsNumbered)
    (h : (pushed x depth).map (·, rest) = some (m, left)) : m.IsNumbered := by
  obtain ⟨_, hm, heq⟩ := Option.map_eq_some_iff.1 h
  obtain ⟨r, hr, rfl⟩ := Option.map_eq_some_iff.1 hm
  obtain ⟨rfl, -⟩ := Prod.mk.inj heq
  exact hx r hr

theorem isNumbered_readAgain {flags : Flags} {least : Nat} {most : Option Nat}
    {rest left : List Char} {m : Move} (h : readAgain flags least most rest = some (m, left)) :
    m.IsNumbered := by
  unfold readAgain onWord at h
  split at h <;> exact (Prod.mk.inj (Option.some.inj h)).1 ▸ True.intro

/-- No item but a group has groups. -/
theorem isNumbered_readMove {flags : Flags} {c : Char} {rest left : List Char} {m : Move} :
    readMove flags c rest = some (m, left) → m.IsNumbered := by
  fun_cases readMove flags c rest with
  | case1 =>
      intro h
      obtain ⟨_, -, heq⟩ := Option.map_eq_some_iff.1 h
      exact (Prod.mk.inj heq).1 ▸ True.intro
  | case2 | case3 | case10 | case11 =>
      intro h
      exact (Prod.mk.inj (Option.some.inj h)).1 ▸ True.intro
  | case4 | case5 | case6 => exact isNumbered_readAgain
  | case7 =>
      intro h
      obtain ⟨_, -, h⟩ := Option.bind_eq_some_iff.1 h
      exact isNumbered_readAgain h
  | case8 =>
      intro h
      obtain ⟨_, -, h⟩ := Option.bind_eq_some_iff.1 h
      exact isNumbered_push (fun r => isNumbered_nodeOfSet?) h
  | case9 => exact isNumbered_push fun r => isNumbered_nodeOfSet?
  | case12 =>
      intro h
      obtain ⟨_, -, h⟩ := Option.bind_eq_some_iff.1 h
      exact isNumbered_push (fun r => isNumbered_node?) h
  | case13 => exact isNumbered_push fun r => isNumbered_node?

end Move

/-! ## What has been read -/

/-- All that a group holds so far has numbered groups. -/
structure Open.IsNumbered (g : Open) : Prop where
  branches : ∀ r ∈ g.branches, r.value.IsNumbered
  items : ∀ item ∈ g.items, ∀ r ∈ item.value, r.IsNumbered

namespace Open.IsNumbered

variable {g : Open}

theorem new : Open.new.IsNumbered where
  branches _ hr := nomatch hr
  items _ hitem := nomatch hitem

theorem push {r : Part Node} (h : g.IsNumbered) (hr : r.value.IsNumbered) :
    (g.push r).IsNumbered where
  branches := h.branches
  items item hitem s hs := by
    rcases List.mem_cons.1 hitem with rfl | hitem
    · exact Option.some.inj hs ▸ hr
    · exact h.items item hitem s hs

theorem branch (h : g.IsNumbered) : g.branch.value.IsNumbered := by
  refine Node.isNumbered_concat fun s hs => ?_
  obtain ⟨item, hitem, heq⟩ := List.mem_filterMap.1 hs
  exact h.items item (List.mem_reverse.1 hitem) s heq

theorem bar (h : g.IsNumbered) : g.bar.IsNumbered where
  branches r hr := by
    rcases List.mem_cons.1 hr with rfl | hr
    · exact h.branch
    · exact h.branches r hr
  items _ hitem := nomatch hitem

theorem whole (h : g.IsNumbered) : g.whole.value.IsNumbered := by
  refine Node.isNumbered_choice fun r hr => ?_
  obtain ⟨part, hpart, rfl⟩ := List.mem_map.1 hr
  exact h.bar.branches part (List.mem_reverse.1 hpart)

theorem repeatLast? {least : Nat} {most : Option Nat} {greedy : Bool} {g' : Open}
    (h : g.IsNumbered) (hrepeat : g.repeatLast? least most greedy = some g') :
    g'.IsNumbered := by
  unfold Open.repeatLast? at hrepeat
  split at hrepeat
  next r depth items hitems =>
    obtain rfl := Option.some.inj hrepeat
    refine ⟨h.branches, fun item hitem s hs => ?_⟩
    rcases List.mem_cons.1 hitem with rfl | hitem
    · obtain rfl := Option.some.inj hs
      exact Node.isNumbered_repeated (h.items _ (hitems ▸ List.mem_cons_self) r rfl) ..
    · exact h.items item (hitems ▸ .tail _ hitem) s hs
  next => cases hrepeat

end Open.IsNumbered

namespace Progress

/-- All groups that are read or open have numbers, and the next one gets one. -/
structure IsNumbered (p : Progress) : Prop where
  inner : p.inner.IsNumbered
  outer : ∀ frame ∈ p.outer, frame.2.2.IsNumbered ∧ ∀ index ∈ frame.1, 0 < index
  next : 0 < p.next

theorem IsNumbered.move? {p q : Progress} {m : Move} (h : p.IsNumbered) (hm : m.IsNumbered)
    (hmove : p.move? m = some q) : q.IsNumbered := by
  cases m with
  | push r =>
      obtain rfl := Option.some.inj hmove
      exact { h with inner := h.inner.push hm }
  | bar =>
      obtain rfl := Option.some.inj hmove
      exact { h with inner := h.inner.bar }
  | opens opening =>
      cases opening with
      | kept name =>
          -- The group takes the next number, which is that of no other group.
          obtain ⟨-, hq⟩ := Option.ite_none_left_eq_some.1 hmove
          obtain rfl := Option.some.inj hq
          refine ⟨.new, fun frame hframe => ?_, Nat.succ_pos _⟩
          rcases List.mem_cons.1 hframe with rfl | hframe
          · exact ⟨h.inner, fun index hindex => Option.some.inj hindex ▸ h.next⟩
          · exact h.outer frame hframe
      | plain flags =>
          obtain rfl := Option.some.inj hmove
          refine ⟨.new, fun frame hframe => ?_, h.next⟩
          rcases List.mem_cons.1 hframe with rfl | hframe
          · exact ⟨h.inner, fun _ hindex => nomatch hindex⟩
          · exact h.outer frame hframe
      | change flags =>
          obtain rfl := Option.some.inj hmove
          refine { h with inner := ⟨h.inner.branches, fun item hitem r hr => ?_⟩ }
          rcases List.mem_cons.1 hitem with rfl | hitem
          · cases hr
          · exact h.inner.items item hitem r hr
  | close =>
      simp only [Progress.move?, close?] at hmove
      split at hmove
      next => cases hmove
      next index flags around outer houter =>
        obtain rfl := Option.some.inj hmove
        have hframe := h.outer _ (houter ▸ List.mem_cons_self)
        have hrest := fun frame hframe => h.outer frame (houter ▸ .tail _ hframe)
        refine ⟨hframe.1.push ?_, hrest, h.next⟩
        cases index with
        | none => exact h.inner.whole
        | some index => exact ⟨hframe.2 index rfl, h.inner.whole⟩
  | again least most greedy =>
      obtain ⟨inner, hinner, rfl⟩ := Option.map_eq_some_iff.1 hmove
      exact { h with inner := h.inner.repeatLast? hinner }

theorem IsNumbered.step {p q : Progress} {c : Char} {rest left : List Char} (h : p.IsNumbered)
    (hstep : p.step c rest = some (q, left)) : q.IsNumbered := by
  obtain ⟨m, hread, hmove⟩ := step_eq_some_iff.1 hstep
  exact h.move? (Move.isNumbered_readMove hread) hmove

theorem isNumbered_start : start.IsNumbered where
  inner := .new
  outer _ hframe := nomatch hframe
  next := Nat.one_pos

end Progress

theorem isNumbered_readItems {fuel : Nat} {p q : Progress} {rest : List Char}
    (h : p.IsNumbered) (hread : readItems fuel p rest = some q) : q.IsNumbered := by
  fun_induction readItems fuel p rest with
  | case1 | case2 => exact Option.some.inj hread ▸ h
  | case3 fuel p rest c more hskip ih =>
      obtain ⟨⟨next, left⟩, hstep, hread⟩ := Option.bind_eq_some_iff.1 hread
      exact ih next left (h.step hstep) hread

/-- Every group of an expression that is read has a number other than that of the whole match. -/
theorem isNumbered_parse? {text : String} {r : Node} (h : parse? text = some r) :
    r.IsNumbered := by
  obtain ⟨p, hread, -, rfl⟩ := parse?_eq_some h
  exact (isNumbered_readItems Progress.isNumbered_start hread).inner.whole

end Regex
end LeftRec
