import PseudoLint.Page.Session
import PseudoLint.Proofs.Shortcut

/-! # Runs of the page

A run draws its top, possibly twice, and then the part below the editor. Whatever page it started
from, after the top the chosen file and sample are loaded and the editor holds the code under the
key of the session (`drawn_drawTop`). Below the editor only a check that replaces shortcuts changes
the code, and it gives the session a new key that the editor on the page does not have yet. So after
a run the session and the widgets agree up to such a replacement (`settled_run`), and the first part
of the next run loads nothing anew.
-/

namespace PseudoLint.Page

/-! ## Sessions -/

namespace Session

variable (session : Session)

@[simp] theorem code_say (line : Text) : (session.say line).code = session.code := rfl

@[simp] theorem editorKey_say (line : Text) :
    (session.say line).editorKey = session.editorKey := rfl

@[simp] theorem uploadedName_say (line : Text) :
    (session.say line).uploadedName = session.uploadedName := rfl

@[simp] theorem sampleName_say (line : Text) :
    (session.say line).sampleName = session.sampleName := rfl

@[simp] theorem code_adopt (code : Text) : (session.adopt code).code = code := by
  unfold adopt
  split
  · rename_i same
    exact same.symm
  · rfl

@[simp] theorem editorKey_adopt (code : Text) :
    (session.adopt code).editorKey =
      if code = session.code then session.editorKey else session.editorKey + 1 := by
  unfold adopt
  split <;> rfl

@[simp] theorem uploadedName_adopt (code : Text) :
    (session.adopt code).uploadedName = session.uploadedName := by
  unfold adopt
  split <;> rfl

@[simp] theorem sampleName_adopt (code : Text) :
    (session.adopt code).sampleName = session.sampleName := by
  unfold adopt
  split <;> rfl

/-- The code that a check looks at. -/
def checkedCode (autoReplace : Bool) : Text :=
  if autoReplace then Shortcut.expand Shortcut.standard session.code else session.code

theorem check_of_ok {autoReplace : Bool} {result : Check}
    (ran : Check.run {} (session.checkedCode autoReplace) = .ok result) :
    session.check autoReplace =
      { session.adopt (session.checkedCode autoReplace) with lastResult := some result }.say
        (verdict result) := by
  unfold checkedCode at ran
  simp only [check, checkedCode]
  rw [ran]

theorem check_of_error {autoReplace : Bool} {fault : Fault}
    (failed : Check.run {} (session.checkedCode autoReplace) = .error fault) :
    session.check autoReplace =
      { session with lastResult := none }.say ("💥 Excepción: " ++ fault.message) := by
  unfold checkedCode at failed
  simp only [check]
  rw [failed]

theorem uploadedName_check (autoReplace : Bool) :
    (session.check autoReplace).uploadedName = session.uploadedName := by
  cases ran : Check.run {} (session.checkedCode autoReplace) with
  | ok result => rw [check_of_ok session ran, uploadedName_say, uploadedName_adopt]
  | error fault => rw [check_of_error session ran, uploadedName_say]

theorem sampleName_check (autoReplace : Bool) :
    (session.check autoReplace).sampleName = session.sampleName := by
  cases ran : Check.run {} (session.checkedCode autoReplace) with
  | ok result => rw [check_of_ok session ran, sampleName_say, sampleName_adopt]
  | error fault => rw [check_of_error session ran, sampleName_say]

/-- A check either leaves the code and its key alone, or is told to replace shortcuts and puts the
expanded code under the next key. -/
theorem check_cases (autoReplace : Bool) :
    ((session.check autoReplace).code = session.code ∧
        (session.check autoReplace).editorKey = session.editorKey) ∨
      (autoReplace = true ∧ (session.check autoReplace).code ≠ session.code ∧
        (session.check autoReplace).editorKey = session.editorKey + 1 ∧
        (session.check autoReplace).code = Shortcut.expand Shortcut.standard session.code) := by
  cases ran : Check.run {} (session.checkedCode autoReplace) with
  | error fault =>
    rw [check_of_error session ran]
    exact .inl ⟨rfl, rfl⟩
  | ok result =>
    rw [check_of_ok session ran]
    simp only [code_say, editorKey_say, code_adopt, editorKey_adopt]
    by_cases same : session.checkedCode autoReplace = session.code
    · exact .inl ⟨same, if_pos same⟩
    · cases autoReplace with
      | true => exact .inr ⟨rfl, same, if_neg same, rfl⟩
      | false => exact absurd rfl same

/-- A session as a check finds it: with an empty console if that was asked for, and with no check
due but by the button for a check. -/
def prepare (click : Option Button) : Session :=
  { session with
    console := if click = some .clearOutput then [] else session.console
    checkDue := if click = some .check then session.checkDue else false }

theorem finishRun_eq (widgets : Widgets) (click : Option Button) :
    session.finishRun widgets click =
      if session.wantsCheck widgets.autoCheck click then
        (session.prepare click).check widgets.autoReplace
      else session.prepare click := by
  by_cases emptied : click = some .clearOutput
  · subst emptied
    rfl
  · by_cases pressed : click = some .check
    · subst pressed
      rfl
    · simp only [finishRun, prepare, emptied, pressed, ↓reduceIte]

end Session

/-! ## The two parts of a run -/

/-- The page of a run when its editor has been drawn for the last time. -/
def atEditor (page : Page) (click : Option Button) : Page :=
  if click = some .clear then (page.drawTop click).cleared.drawTop none else page.drawTop click

/-- The button that is pressed below the editor: clearing starts over with none. -/
def clickBelow (click : Option Button) : Option Button :=
  if click = some .clear then none else click

theorem run_eq (page : Page) (click : Option Button) :
    page.run click = (page.atEditor click).drawBottom (clickBelow click) := by
  unfold run atEditor clickBelow
  split <;> rfl

/-- A page after its top was drawn: what was chosen is loaded, and the session has the code of the
editor under the same key. -/
structure Drawn (page : Page) : Prop where
  upload : ∀ upload, page.widgets.upload = some upload →
    page.session.uploadedName = some upload.name
  sample : page.widgets.sample = noSample ∨ page.session.sampleName = some page.widgets.sample
  key : page.widgets.editorKey = page.session.editorKey
  text : page.widgets.editorText = page.session.code

theorem uploadedName_loadUpload (session : Session) {choice : Option Upload} {upload : Upload}
    (chosen : choice = some upload) :
    (session.loadUpload choice).uploadedName = some upload.name := by
  subst chosen
  simp only [Session.loadUpload]
  split
  · assumption
  · rfl

theorem uploadedName_loadSample (session : Session) (choice : Text) :
    (session.loadSample choice).uploadedName = session.uploadedName := by
  unfold Session.loadSample
  split <;> rfl

theorem sampleName_loadSample (session : Session) (choice : Text) :
    choice = noSample ∨ (session.loadSample choice).sampleName = some choice := by
  unfold Session.loadSample
  split
  · assumption
  · exact .inr rfl

theorem names_pressSymbol (session : Session) (click : Option Button) :
    (session.pressSymbol click).uploadedName = session.uploadedName ∧
      (session.pressSymbol click).sampleName = session.sampleName := by
  unfold Session.pressSymbol
  split <;> exact ⟨rfl, rfl⟩

theorem editorKey_drawEditor (widgets : Widgets) (session : Session) :
    (widgets.drawEditor session).editorKey = session.editorKey := by
  unfold Widgets.drawEditor
  split
  · assumption
  · rfl

theorem choices_drawEditor (widgets : Widgets) (session : Session) :
    (widgets.drawEditor session).upload = widgets.upload ∧
      (widgets.drawEditor session).sample = widgets.sample := by
  unfold Widgets.drawEditor
  split <;> exact ⟨rfl, rfl⟩

/-- Drawing the top brings session and widgets together on every page. -/
theorem drawn_drawTop (page : Page) (click : Option Button) : Drawn (page.drawTop click) := by
  have upload := (choices_drawEditor page.widgets
    (((page.session.loadUpload page.widgets.upload).loadSample page.widgets.sample).pressSymbol
      click)).1
  have sample := (choices_drawEditor page.widgets
    (((page.session.loadUpload page.widgets.upload).loadSample page.widgets.sample).pressSymbol
      click)).2
  have names := names_pressSymbol
    ((page.session.loadUpload page.widgets.upload).loadSample page.widgets.sample) click
  refine ⟨?_, ?_, editorKey_drawEditor _ _, rfl⟩
  · intro chosen found
    simp only [drawTop, upload] at found ⊢
    rw [names.1, uploadedName_loadSample, uploadedName_loadUpload _ found]
  · simp only [drawTop, sample]
    rw [names.2]
    exact sampleName_loadSample _ _

theorem drawn_atEditor (page : Page) (click : Option Button) : Drawn (page.atEditor click) := by
  unfold atEditor
  split <;> exact drawn_drawTop _ _

/-! ## Pages after a run -/

/-- A page between two runs: what was chosen is loaded, and the editor either holds the code of the
session or lags behind a replacement of shortcuts. -/
structure Settled (page : Page) : Prop where
  upload : ∀ upload, page.widgets.upload = some upload →
    page.session.uploadedName = some upload.name
  sample : page.widgets.sample = noSample ∨ page.session.sampleName = some page.widgets.sample
  text : page.widgets.editorKey = page.session.editorKey →
    page.widgets.editorText = page.session.code
  expanded : page.widgets.editorKey ≠ page.session.editorKey →
    Shortcut.expand Shortcut.standard page.session.code = page.session.code

/-- Below the editor the code and its key stay, or a check replaces the shortcuts of the code. -/
theorem finishRun_cases (session : Session) (widgets : Widgets) (click : Option Button) :
    ((session.finishRun widgets click).code = session.code ∧
        (session.finishRun widgets click).editorKey = session.editorKey) ∨
      (session.wantsCheck widgets.autoCheck click = true ∧ widgets.autoReplace = true ∧
        (session.finishRun widgets click).code ≠ session.code ∧
        (session.finishRun widgets click).editorKey = session.editorKey + 1 ∧
        (session.finishRun widgets click).code =
          Shortcut.expand Shortcut.standard session.code) := by
  rw [Session.finishRun_eq]
  split
  · rename_i wanted
    exact (Session.check_cases (session.prepare click) widgets.autoReplace).imp_right
      fun replaced => ⟨wanted, replaced⟩
  · exact .inl ⟨rfl, rfl⟩

theorem names_finishRun (session : Session) (widgets : Widgets) (click : Option Button) :
    (session.finishRun widgets click).uploadedName = session.uploadedName ∧
      (session.finishRun widgets click).sampleName = session.sampleName := by
  rw [Session.finishRun_eq]
  split
  · exact ⟨Session.uploadedName_check _ _, Session.sampleName_check _ _⟩
  · exact ⟨rfl, rfl⟩

theorem Drawn.settled_drawBottom {page : Page} (drawn : Drawn page) (click : Option Button) :
    Settled (page.drawBottom click) := by
  have names := names_finishRun page.session page.widgets click
  refine ⟨?_, ?_, ?_, ?_⟩
  · intro upload chosen
    exact names.1.trans (drawn.upload upload chosen)
  · exact drawn.sample.imp_right names.2.trans
  · intro same
    rcases finishRun_cases page.session page.widgets click with
      ⟨code, -⟩ | ⟨-, -, -, key, -⟩
    · exact drawn.text.trans code.symm
    · have next : page.widgets.editorKey = page.session.editorKey + 1 := same.trans key
      have current := drawn.key
      omega
  · intro stale
    rcases finishRun_cases page.session page.widgets click with
      ⟨-, key⟩ | ⟨-, -, -, -, code⟩
    · exact absurd (drawn.key.trans key.symm) stale
    · have replaced : (page.drawBottom click).session.code =
          Shortcut.expand Shortcut.standard page.session.code := code
      rw [replaced]
      exact Shortcut.signTable_standard.expand_expand page.session.code

/-- Every run leaves a settled page. -/
theorem settled_run (page : Page) (click : Option Button) : Settled (page.run click) := by
  rw [run_eq]
  exact (drawn_atEditor page click).settled_drawBottom _

/-- The pages that a user can come to. -/
inductive Reachable : Page → Prop where
  | start : Reachable start
  | interact {page : Page} (reachable : Reachable page) (interaction : Interaction) :
      Reachable (page.interact interaction)

theorem Reachable.settled {page : Page} (reachable : Reachable page) : Settled page := by
  cases reachable with
  | start => exact settled_run blank none
  | interact _ interaction => exact settled_run _ interaction.click

/-! ## Interactions -/

/-- The page of an interaction when its editor has been drawn: what a check starts from. -/
def beforeCheck (page : Page) (interaction : Interaction) : Page :=
  Page.atEditor ⟨page.session, page.widgets.set interaction⟩ interaction.click

/-- Whether the run of an interaction checks the code. -/
def performsCheck (page : Page) (interaction : Interaction) : Bool :=
  (page.beforeCheck interaction).session.wantsCheck
    (page.beforeCheck interaction).widgets.autoCheck (clickBelow interaction.click)

theorem interact_eq (page : Page) (interaction : Interaction) :
    page.interact interaction =
      (page.beforeCheck interaction).drawBottom (clickBelow interaction.click) :=
  run_eq _ _

theorem session_interact (page : Page) (interaction : Interaction) :
    (page.interact interaction).session =
      (page.beforeCheck interaction).session.finishRun (page.beforeCheck interaction).widgets
        (clickBelow interaction.click) := by
  rw [interact_eq]
  rfl

theorem session_interact_of_check {page : Page} {interaction : Interaction}
    (checks : page.performsCheck interaction = true) :
    (page.interact interaction).session =
      ((page.beforeCheck interaction).session.prepare (clickBelow interaction.click)).check
        (page.beforeCheck interaction).widgets.autoReplace := by
  rw [session_interact, Session.finishRun_eq]
  exact if_pos checks

/-- A check that answers leaves the code that it has looked at, under the next key if it is a new
code. -/
theorem code_interact_of_check {page : Page} {interaction : Interaction} {result : Check}
    (checks : page.performsCheck interaction = true)
    (ran : Check.run {} ((page.beforeCheck interaction).session.checkedCode
      (page.beforeCheck interaction).widgets.autoReplace) = .ok result) :
    let before := page.beforeCheck interaction
    let code := before.session.checkedCode before.widgets.autoReplace
    (page.interact interaction).session.code = code ∧
    (page.interact interaction).session.editorKey =
      (if code = before.session.code then before.session.editorKey
        else before.session.editorKey + 1) ∧
    (page.interact interaction).session.lastResult = some result := by
  intro before code
  have checked := Session.check_of_ok (before.session.prepare (clickBelow interaction.click)) ran
  rw [session_interact_of_check checks, checked]
  exact ⟨Session.code_adopt _ _, Session.editorKey_adopt _ _, rfl⟩

theorem loadUpload_of_remembered {session : Session} {choice : Option Upload}
    (upload : ∀ upload, choice = some upload → session.uploadedName = some upload.name) :
    session.loadUpload choice = session := by
  cases choice with
  | none => rfl
  | some file => rw [Session.loadUpload, if_pos (upload file rfl)]

/-- The top of a run on which nothing is left to be loaded only draws the editor. -/
theorem drawTop_of_loaded (session : Session) (widgets : Widgets) (click : Option Button)
    (upload : ∀ upload, widgets.upload = some upload → session.uploadedName = some upload.name)
    (sample : widgets.sample = noSample ∨ session.sampleName = some widgets.sample)
    (plain : ∀ text, click ≠ some (.symbol text)) :
    Page.drawTop ⟨session, widgets⟩ click =
      ⟨{ session with code := (widgets.drawEditor session).editorText },
        widgets.drawEditor session⟩ := by
  have uploaded := loadUpload_of_remembered upload
  have sampled : session.loadSample widgets.sample = session := by
    rw [Session.loadSample, if_pos sample]
  have pressed : session.pressSymbol click = session := by
    unfold Session.pressSymbol
    split
    · exact absurd rfl (plain _)
    · rfl
  simp only [drawTop, uploaded, sampled, pressed]

/-- On a settled page an edit reaches the session if the editor has the key of the session;
otherwise the editor is drawn anew with the code of the session. -/
theorem Settled.beforeCheck_edit {page : Page} (settled : Settled page) (edit : Option Text)
    {click : Option Button} (plain : click = none ∨ click = some .check) :
    page.beforeCheck { edit, click } =
      let text :=
        if page.widgets.editorKey = page.session.editorKey then
          edit.getD page.widgets.editorText
        else page.session.code
      ⟨{ page.session with code := text },
        { page.widgets with editorKey := page.session.editorKey, editorText := text }⟩ := by
  have top : page.beforeCheck { edit, click } =
      Page.drawTop ⟨page.session, page.widgets.set { edit, click }⟩ click := by
    rcases plain with rfl | rfl <;> rfl
  have widgets : page.widgets.set { edit, click } =
      { page.widgets with editorText := edit.getD page.widgets.editorText } := by
    simp [Widgets.set]
  have loaded := drawTop_of_loaded page.session (page.widgets.set { edit, click }) click
    settled.upload settled.sample (by rcases plain with rfl | rfl <;> simp)
  rw [top, loaded, widgets, Widgets.drawEditor]
  by_cases same : page.widgets.editorKey = page.session.editorKey
  · simp only [same, ↓reduceIte]
  · simp only [same, ↓reduceIte]

end PseudoLint.Page
