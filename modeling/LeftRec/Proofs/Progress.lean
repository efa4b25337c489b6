import LeftRec.Proofs.Course
import LeftRec.Proofs.Visits

/-!
# Progress — where visits lead

What is entered in the course of a run lies ahead of where the run began.  On any course, a visit
of the library's parsers that begins where the course may start, with a table whose entries are on
it, enters such visits only.
-/

namespace LeftRec
namespace Grammar

variable {S : Signature} {T : Type → Type} [MemoTable T]
variable {G : Grammar S} {input : Input S.Token} {course : Course input} {α : Type}

/-! ## Visits on a course -/

/-- The visit begins where the course may start, and all that it can find is on the course. -/
structure OnCourse (G : Grammar S) (course : Course input) (v : Visit S T) : Prop where
  offered : G.Built Parser.Offered v.parser
  starts : course.starts v.pos
  along : v.state.Along course

variable [LawfulMemoTable T]

theorem OnCourse.finish {v : Visit S T} (h : G.OnCourse course v) {o : Outcome v.α}
    {after : State S T} (hrun : G.run input v.fuel v.parser v.pos v.ctx v.state = .done o after) :
    o.Along course v.pos ∧ after.Along course :=
  along_run h.offered v.fuel h.starts h.along hrun

/-! ## Rows and repetitions -/

section Progress

variable {fuel start pos : Nat} {ctx under : Context} {state middle : State S T}

theorem RowAt.along {parts rest : List (Parser S α)}
    (h : G.RowAt input fuel start ctx parts state rest pos middle)
    (hparts : ∀ p ∈ parts, G.Built Parser.Offered p) (hstart : course.starts start)
    (hstate : state.Along course) : course.leads start pos ∧ middle.Along course := by
  induction h with
  | start => exact ⟨course.here start, hstate⟩
  | next hat hrun ih =>
      obtain ⟨hleads, hmiddle⟩ := ih
      have hp := hparts _ (hat.mem _ List.mem_cons_self)
      obtain ⟨hmore, hafter⟩ := along_run hp fuel (course.follow hstart hleads) hmiddle hrun
      exact ⟨course.trans hleads hmore, hafter⟩

theorem ManyAt.along {p : Parser S α}
    (h : G.ManyAt input fuel p start ctx state pos under middle)
    (hp : G.Built Parser.Offered p) (hstart : course.starts start) (hstate : state.Along course) :
    course.leads start pos ∧ middle.Along course := by
  induction h with
  | start => exact ⟨course.here start, hstate⟩
  | next _ hrun _ ih =>
      obtain ⟨hleads, hmiddle⟩ := ih
      obtain ⟨hmore, hafter⟩ := along_run hp fuel (course.follow hstart hleads) hmiddle hrun
      exact ⟨course.trans hleads hmore, hafter⟩

end Progress

/-! ## One step, and whole runs -/

namespace OnCourse

variable {v w root : Visit S T}

theorem enters (h : G.OnCourse course v) (henters : G.Enters input v w) :
    G.OnCourse course w ∧ course.leads v.pos w.pos := by
  suffices hbegin : course.leads v.pos w.pos ∧ w.state.Along course by
    obtain ⟨hleads, halong⟩ := hbegin
    have hstarts : course.starts w.pos := course.follow h.starts hleads
    exact ⟨⟨h.offered.of_uses henters.uses, hstarts, halong⟩, hleads⟩
  cases henters with
  | count what p => exact h.offered.holds.elim
  -- A first part begins where the whole does, with the same table.
  | tryMap | zipWithLeft | bindFirst | altLeft | label | commit | look | memo | ref =>
      exact ⟨course.here _, h.along⟩
  | zipWithRight f p q hrun =>
      exact along_run (h.offered.part (.zipWithLeft f p q)) _ h.starts h.along hrun
  | bindNext p f hrun =>
      exact along_run (h.offered.part (.bindFirst p f)) _ h.starts h.along hrun
  | altRight p q hrun _ =>
      obtain ⟨-, halong⟩ := along_run (h.offered.part (.altLeft p q)) _ h.starts h.along hrun
      exact ⟨course.here _, halong⟩
  | row count part hat => exact hat.along h.offered.parts h.starts h.along
  | many p hat => exact hat.along (h.offered.part (.many p)) h.starts h.along
  | copy hfill =>
      obtain ⟨-, hmemo⟩ := fill_eq_ok hfill
      exact ⟨course.here _, h.along.of_memo hmemo⟩

theorem visits (h : G.OnCourse course root) (hvisits : G.Visits input root w) :
    G.OnCourse course w ∧ course.leads root.pos w.pos := by
  induction hvisits with
  | refl => exact ⟨h, course.here root.pos⟩
  | tail _ henters ih =>
      obtain ⟨hv, hleads⟩ := ih
      obtain ⟨hw, hmore⟩ := hv.enters henters
      exact ⟨hw, course.trans hleads hmore⟩

end OnCourse

end Grammar
end LeftRec
