import PseudoLint.Proofs.Check.Run
import PseudoLint.Proofs.Page.Run

/-! # Edits on the page

As long as the editor on the page has the key of the session, an edit reaches the session. The only
other pages are those on which the last check has replaced shortcuts: it gave the session a new key
after the editor had been drawn. There an edit is dropped, because the next run draws an editor
under the new key with the code of the session.
-/

namespace PseudoLint.Page

/-- A run leaves the code that it has taken from the editor, or a check replaces its shortcuts. -/
theorem code_interact (page : Page) (interaction : Interaction) :
    (page.interact interaction).session.code = (page.beforeCheck interaction).session.code ∨
      (page.performsCheck interaction = true ∧
        (page.beforeCheck interaction).widgets.autoReplace = true ∧
        (page.interact interaction).session.code =
          Shortcut.expand Shortcut.standard (page.beforeCheck interaction).session.code) := by
  rw [session_interact]
  rcases finishRun_cases (page.beforeCheck interaction).session
    (page.beforeCheck interaction).widgets (clickBelow interaction.click) with
    ⟨code, -⟩ | ⟨checks, replaces, -, -, code⟩
  · exact .inl code
  · exact .inr ⟨checks, replaces, code⟩

/-- The editor on the page lags behind the session exactly if the check of the last run changed the
code. -/
theorem stale_iff_replaced (page : Page) (interaction : Interaction) :
    (page.interact interaction).widgets.editorKey ≠ (page.interact interaction).session.editorKey ↔
      (page.interact interaction).session.code ≠ (page.beforeCheck interaction).session.code := by
  have key : (page.interact interaction).widgets.editorKey =
      (page.beforeCheck interaction).session.editorKey := by
    rw [interact_eq]
    exact (drawn_atEditor _ _).key
  rw [key, session_interact]
  rcases finishRun_cases (page.beforeCheck interaction).session
    (page.beforeCheck interaction).widgets (clickBelow interaction.click) with
    ⟨code, same⟩ | ⟨-, -, code, next, -⟩
  · simp [code, same]
  · simp [code, next]

/-- The pages whose editor lags behind are those on which the last run replaced shortcuts. -/
theorem Reachable.stale_iff {page : Page} (reachable : Reachable page) :
    page.widgets.editorKey ≠ page.session.editorKey ↔
      ∃ earlier interaction, Reachable earlier ∧ page = earlier.interact interaction ∧
        page.session.code ≠ (earlier.beforeCheck interaction).session.code := by
  constructor
  · intro stale
    cases reachable with
    | start => exact absurd (by decide) stale
    | @interact earlier before interaction =>
      exact ⟨earlier, interaction, before, rfl, (stale_iff_replaced earlier interaction).mp stale⟩
  · rintro ⟨earlier, interaction, -, rfl, replaced⟩
    exact (stale_iff_replaced earlier interaction).mpr replaced

/-- Where the editor lags behind, the next edit is dropped. -/
theorem Reachable.code_interact_edit_of_stale {page : Page} (reachable : Reachable page)
    (stale : page.widgets.editorKey ≠ page.session.editorKey) (text : Text) :
    (page.interact { edit := some text }).session.code = page.session.code := by
  have settled := reachable.settled
  have drawn := settled.beforeCheck_edit (some text) (.inl rfl)
  have code := code_interact page { edit := some text }
  rw [if_neg stale] at drawn
  rw [drawn] at code
  rcases code with kept | ⟨-, -, replaced⟩
  · exact kept
  · exact replaced.trans (settled.expanded stale)

/-- An edit is kept, or expanded by a check, on every page whose editor has the key of the session.
On the other pages, which are those that a check leaves when it replaces shortcuts, it is dropped
and the session keeps its code. -/
theorem edit_kept_unless_stale {page : Page} (reachable : Reachable page) (text : Text) :
    let after := page.interact { edit := some text }
    (page.widgets.editorKey = page.session.editorKey →
      after.session.code = text ∨
        (page.performsCheck { edit := some text } = true ∧ page.widgets.autoReplace = true ∧
          after.session.code = Shortcut.expand Shortcut.standard text)) ∧
    (page.widgets.editorKey ≠ page.session.editorKey → after.session.code = page.session.code) ∧
    (page.widgets.editorKey ≠ page.session.editorKey ↔
      ∃ earlier interaction, Reachable earlier ∧ page = earlier.interact interaction ∧
        page.session.code ≠ (earlier.beforeCheck interaction).session.code) := by
  intro after
  refine ⟨?_, fun stale => reachable.code_interact_edit_of_stale stale text, reachable.stale_iff⟩
  intro same
  have drawn := reachable.settled.beforeCheck_edit (some text) (.inl rfl)
  have code := code_interact page { edit := some text }
  rw [if_pos same] at drawn
  rw [drawn] at code
  exact code

/-- The page on which a shortcut was typed and then replaced by a check: its editor lags behind. -/
theorem replaced_page :
    let page := (start.interact { edit := some "x <-- 5" }).interact { click := some .check }
    Reachable page ∧ page.session.code = "x ← 5" ∧
      page.widgets.editorKey ≠ page.session.editorKey := by
  intro page
  let typed := start.interact { edit := some "x <-- 5" }
  have written : (typed.beforeCheck { click := some .check }).session.code = "x <-- 5" := by decide
  have looked : (typed.beforeCheck { click := some .check }).session.checkedCode
      (typed.beforeCheck { click := some .check }).widgets.autoReplace = "x ← 5" := by
    have replaces : (typed.beforeCheck { click := some .check }).widgets.autoReplace = true := by
      decide
    rw [Session.checkedCode, if_pos replaces, written, Shortcut.expand_standard]
    decide
  have ran := Check.run_of_isOk {} "x ← 5" (by decide)
  have code : page.session.code = "x ← 5" :=
    (code_interact_of_check (by decide) (looked ▸ ran)).1.trans looked
  refine ⟨.interact (.interact .start _) _, code, ?_⟩
  rw [stale_iff_replaced, code, written]
  decide

/-- An edit on the first page is kept. When a check has then replaced a shortcut, the next edit is
dropped. -/
theorem edit_kept_then_dropped :
    (start.interact { edit := some "x <-- 5" }).session.code = "x <-- 5" ∧
    (((start.interact { edit := some "x <-- 5" }).interact { click := some .check }).interact
      { edit := some "OUTPUT 1" }).session.code = "x ← 5" := by
  refine ⟨?_, ?_⟩
  · rcases (edit_kept_unless_stale .start "x <-- 5").1 (by decide) with kept | ⟨checks, -⟩
    · exact kept
    · exact absurd checks (by decide)
  · obtain ⟨reachable, code, stale⟩ := replaced_page
    exact ((edit_kept_unless_stale reachable "OUTPUT 1").2.1 stale).trans code

/-- Not every edit reaches the session: after a check that replaced a shortcut it is dropped. -/
theorem edit_lost_after_replacement :
    ¬ ∀ page : Page, Reachable page → ∀ text : Text,
      (page.interact { edit := some text }).session.code = text ∨
        (page.performsCheck { edit := some text } = true ∧ page.widgets.autoReplace = true ∧
          (page.interact { edit := some text }).session.code =
            Shortcut.expand Shortcut.standard text) := by
  intro kept
  obtain ⟨reachable, code, stale⟩ := replaced_page
  have dropped := (reachable.code_interact_edit_of_stale stale "OUTPUT 1").trans code
  rcases kept _ reachable "OUTPUT 1" with same | ⟨-, -, expanded⟩
  · rw [dropped] at same
    exact absurd same (by decide)
  · rw [dropped, Shortcut.expand_standard] at expanded
    exact absurd expanded (by decide)

end PseudoLint.Page
