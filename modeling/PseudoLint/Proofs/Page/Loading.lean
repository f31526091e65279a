import PseudoLint.Proofs.Page.Editing

/-! # Loading files and samples

The page keeps the name of the last file and of the last sample that it loaded, and loads a choice
only if its name is another one. Nothing else changes these names: neither clearing nor taking the
choice back forgets them, and a file does not touch the name of the sample (`names_replay`). So a
choice is loaded, over whatever the editor holds, exactly if the last choice of its kind in the
whole history had another name. A choice that is not loaded does nothing at all. This is so for a
file with the same name and other bytes, and for a sample that is chosen again after none was.
-/

namespace PseudoLint.Page

/-! ## What a history leaves chosen -/

/-- The page after some interactions. -/
def replay (history : List Interaction) : Page :=
  history.foldl interact start

/-- A choice of the box of samples, unless it is the one for none. -/
def sample? (choice : Text) : Option Text :=
  if choice = noSample then none else some choice

/-- The sample that an interaction chooses. -/
def Interaction.chosenSample (interaction : Interaction) : Option Text :=
  interaction.sample.bind sample?

/-- The name of the file that an interaction uploads. -/
def Interaction.uploadedName (interaction : Interaction) : Option Text :=
  interaction.upload.join.map Upload.name

/-- The last sample that a history chooses. -/
def lastSample (history : List Interaction) : Option Text :=
  (history.filterMap Interaction.chosenSample).getLast?

/-- The name of the last file that a history uploads. -/
def lastUpload (history : List Interaction) : Option Text :=
  (history.filterMap Interaction.uploadedName).getLast?

/-! ## Names -/

theorem uploadedName_drawTop (page : Page) (click : Option Button) :
    (page.drawTop click).session.uploadedName =
      (page.widgets.upload.map Upload.name).or page.session.uploadedName := by
  have pressed := (names_pressSymbol
    ((page.session.loadUpload page.widgets.upload).loadSample page.widgets.sample) click).1
  simp only [drawTop]
  rw [pressed, uploadedName_loadSample]
  cases chosen : page.widgets.upload with
  | none => rfl
  | some file =>
    rw [uploadedName_loadUpload _ rfl]
    rfl

theorem sampleName_loadUpload (session : Session) (upload : Option Upload) :
    (session.loadUpload upload).sampleName = session.sampleName := by
  unfold Session.loadUpload
  split
  · rfl
  · split
    · rfl
    · rfl

theorem sampleName_drawTop (page : Page) (click : Option Button) :
    (page.drawTop click).session.sampleName =
      (sample? page.widgets.sample).or page.session.sampleName := by
  have pressed := (names_pressSymbol
    ((page.session.loadUpload page.widgets.upload).loadSample page.widgets.sample) click).2
  simp only [drawTop]
  rw [pressed]
  by_cases none : page.widgets.sample = noSample
  · rw [Session.loadSample, if_pos (.inl none), sampleName_loadUpload, sample?, if_pos none]
    rfl
  · rw [(sampleName_loadSample _ _).resolve_left none, sample?, if_neg none]
    rfl

/-- Clearing draws the top twice, but the second time nothing is left to be loaded. -/
theorem names_atEditor (page : Page) (click : Option Button) :
    (page.atEditor click).session.uploadedName =
        (page.widgets.upload.map Upload.name).or page.session.uploadedName ∧
      (page.atEditor click).session.sampleName =
        (sample? page.widgets.sample).or page.session.sampleName := by
  unfold atEditor
  split
  · have choices : (page.drawTop click).cleared.widgets.upload = page.widgets.upload ∧
        (page.drawTop click).cleared.widgets.sample = page.widgets.sample :=
      choices_drawEditor page.widgets _
    have upload : (page.drawTop click).cleared.session.uploadedName = _ :=
      uploadedName_drawTop page click
    have sample : (page.drawTop click).cleared.session.sampleName = _ :=
      sampleName_drawTop page click
    rw [uploadedName_drawTop, sampleName_drawTop, choices.1, choices.2, upload, sample,
      ← Option.or_assoc, Option.or_self, ← Option.or_assoc, Option.or_self]
    exact ⟨rfl, rfl⟩
  · exact ⟨uploadedName_drawTop page click, sampleName_drawTop page click⟩

/-- On a settled page an interaction changes the remembered names by its own choices only. -/
theorem Settled.names_interact {page : Page} (settled : Settled page) (interaction : Interaction) :
    (page.interact interaction).session.uploadedName =
        interaction.uploadedName.or page.session.uploadedName ∧
      (page.interact interaction).session.sampleName =
        interaction.chosenSample.or page.session.sampleName := by
  have kept := names_finishRun (page.beforeCheck interaction).session
    (page.beforeCheck interaction).widgets (clickBelow interaction.click)
  obtain ⟨upload, sample⟩ :=
    names_atEditor ⟨page.session, page.widgets.set interaction⟩ interaction.click
  rw [session_interact, kept.1, kept.2, beforeCheck, upload, sample]
  constructor
  · cases chosen : interaction.upload with
    | some choice => simp [Widgets.set, Interaction.uploadedName, chosen]
    | none =>
      -- What stays in the widget is remembered already.
      simp only [Widgets.set, Interaction.uploadedName, chosen, Option.getD_none, Option.join_none,
        Option.map_none, Option.none_or]
      cases chosen : page.widgets.upload with
      | none => rfl
      | some file =>
        rw [settled.upload file chosen]
        rfl
  · cases chosen : interaction.sample with
    | some choice => simp [Widgets.set, Interaction.chosenSample, chosen]
    | none =>
      simp only [Widgets.set, Interaction.chosenSample, chosen, Option.getD_none, Option.bind_none,
        Option.none_or]
      rcases settled.sample with none | remembered
      · rw [none]
        rfl
      · rw [remembered, sample?]
        split
        · rfl
        · rfl

/-! ## Histories -/

theorem getLast?_filterMap_cons {chosen : Interaction → Option Text} (first : Interaction)
    (rest : List Interaction) :
    ((first :: rest).filterMap chosen).getLast? =
      (rest.filterMap chosen).getLast?.or (chosen first) := by
  cases offered : chosen first with
  | none => rw [List.filterMap_cons_none offered, Option.or_none]
  | some name =>
    rw [List.filterMap_cons_some offered, List.getLast?_cons]
    cases (rest.filterMap chosen).getLast? <;> rfl

theorem Settled.names_foldl {page : Page} (settled : Settled page) (history : List Interaction) :
    (history.foldl interact page).session.uploadedName =
        (lastUpload history).or page.session.uploadedName ∧
      (history.foldl interact page).session.sampleName =
        (lastSample history).or page.session.sampleName := by
  induction history generalizing page with
  | nil => exact ⟨rfl, rfl⟩
  | cons interaction rest ih =>
    obtain ⟨upload, sample⟩ := settled.names_interact interaction
    obtain ⟨uploads, samples⟩ := ih (settled_run _ interaction.click)
    rw [List.foldl_cons, lastUpload, lastSample, getLast?_filterMap_cons, getLast?_filterMap_cons,
      Option.or_assoc, Option.or_assoc, ← upload, ← sample]
    exact ⟨uploads, samples⟩

theorem reachable_foldl {page : Page} (reachable : Reachable page) (history : List Interaction) :
    Reachable (history.foldl interact page) := by
  induction history generalizing page with
  | nil => exact reachable
  | cons interaction rest ih => exact ih (reachable.interact interaction)

theorem reachable_replay (history : List Interaction) : Reachable (replay history) :=
  reachable_foldl .start history

/-- The page remembers the last file and the last sample of its whole history. -/
theorem names_replay (history : List Interaction) :
    (replay history).session.uploadedName = lastUpload history ∧
      (replay history).session.sampleName = lastSample history := by
  obtain ⟨upload, sample⟩ := (Reachable.settled .start).names_foldl history
  exact ⟨upload.trans Option.or_none, sample.trans Option.or_none⟩

/-! ## Choices that are loaded -/

/-- The editor never has a later key than the session. -/
theorem editorKey_run_le (page : Page) (click : Option Button) :
    (page.run click).widgets.editorKey ≤ (page.run click).session.editorKey := by
  rw [run_eq]
  have drawn := (drawn_atEditor page click).key
  change (page.atEditor click).widgets.editorKey ≤
    ((page.atEditor click).session.finishRun _ _).editorKey
  rcases finishRun_cases (page.atEditor click).session (page.atEditor click).widgets
    (clickBelow click) with ⟨-, key⟩ | ⟨-, -, -, key, -⟩
  · omega
  · omega

theorem Reachable.editorKey_le {page : Page} (reachable : Reachable page) :
    page.widgets.editorKey ≤ page.session.editorKey := by
  cases reachable with
  | start => exact editorKey_run_le blank none
  | interact _ interaction => exact editorKey_run_le _ interaction.click

/-- What is loaded under a key that the editor does not have yet goes into the editor. -/
theorem code_drawTop_of_behind (session : Session) (widgets : Widgets) {loaded : Session}
    (load : (session.loadUpload widgets.upload).loadSample widgets.sample = loaded)
    (behind : widgets.editorKey < loaded.editorKey) :
    (Page.drawTop ⟨session, widgets⟩ none).session.code = loaded.code := by
  have stale : widgets.editorKey ≠ loaded.editorKey := by omega
  simp only [drawTop, load, Session.pressSymbol, Widgets.drawEditor, if_neg stale]

theorem ne_noSample {choice text : Text} (known : Sample.builtIn.get? choice = some text) :
    choice ≠ noSample := by
  have absent : Sample.builtIn.get? noSample = none := by decide
  rintro rfl
  rw [absent] at known
  cases known

theorem loadUpload_of_new {session : Session} {file : Upload}
    (other : session.uploadedName ≠ some file.name) :
    (session.loadUpload (some file)).code = decodeUpload file.bytes ∧
      (session.loadUpload (some file)).editorKey = session.editorKey + 1 := by
  rw [Session.loadUpload, if_neg other]
  exact ⟨rfl, rfl⟩

theorem loadSample_of_new {session : Session} {choice text : Text}
    (known : Sample.builtIn.get? choice = some text) (other : session.sampleName ≠ some choice) :
    (session.loadSample choice).code = text ∧
      (session.loadSample choice).editorKey = session.editorKey + 1 := by
  have fresh : ¬ (choice = noSample ∨ session.sampleName = some choice) := by
    rintro (unchosen | same)
    · exact ne_noSample known unchosen
    · exact other same
  rw [Session.loadSample, if_neg fresh, known]
  exact ⟨rfl, rfl⟩

/-- A file with another name than the last one goes into the editor. -/
theorem Reachable.code_beforeCheck_upload {page : Page} (reachable : Reachable page)
    {file : Upload} (other : page.session.uploadedName ≠ some file.name) :
    (page.beforeCheck { upload := some (some file) }).session.code = decodeUpload file.bytes := by
  have below := reachable.editorKey_le
  obtain ⟨code, key⟩ := loadUpload_of_new other
  have load : (page.session.loadUpload (some file)).loadSample page.widgets.sample =
      page.session.loadUpload (some file) := by
    rw [Session.loadSample, sampleName_loadUpload, if_pos reachable.settled.sample]
  rw [← code]
  apply code_drawTop_of_behind page.session (page.widgets.set { upload := some (some file) }) load
  change page.widgets.editorKey < _
  omega

/-- A sample with another name than the last one goes into the editor. -/
theorem Reachable.code_beforeCheck_sample {page : Page} (reachable : Reachable page)
    {choice text : Text} (known : Sample.builtIn.get? choice = some text)
    (other : page.session.sampleName ≠ some choice) :
    (page.beforeCheck { sample := some choice }).session.code = text := by
  have below := reachable.editorKey_le
  obtain ⟨code, key⟩ := loadSample_of_new known other
  have load : (page.session.loadUpload page.widgets.upload).loadSample choice =
      page.session.loadSample choice := by
    rw [loadUpload_of_remembered reachable.settled.upload]
  rw [← code]
  apply code_drawTop_of_behind page.session (page.widgets.set { sample := some choice }) load
  change page.widgets.editorKey < _
  omega

theorem autoReplace_drawTop (page : Page) (click : Option Button) :
    (page.drawTop click).widgets.autoReplace = page.widgets.autoReplace := by
  unfold drawTop Widgets.drawEditor
  dsimp only
  split
  · rfl
  · rfl

theorem autoReplace_beforeCheck (page : Page) (interaction : Interaction) :
    (page.beforeCheck interaction).widgets.autoReplace =
      interaction.autoReplace.getD page.widgets.autoReplace := by
  unfold beforeCheck atEditor
  split
  · rw [autoReplace_drawTop]
    exact autoReplace_drawTop ..
  · exact autoReplace_drawTop ..

/-- What was put into the editor is the code after the run, unless the check replaces shortcuts. -/
theorem code_interact_of_loaded {page : Page} {interaction : Interaction} {text : Text}
    (untouched : interaction.autoReplace = none)
    (loaded : (page.beforeCheck interaction).session.code = text) :
    (page.interact interaction).session.code = text ∨
      (page.widgets.autoReplace = true ∧
        (page.interact interaction).session.code = Shortcut.expand Shortcut.standard text) := by
  have code := code_interact page interaction
  rw [loaded, autoReplace_beforeCheck, untouched] at code
  exact code.imp_right And.right

/-! ## Choices that are passed over -/

/-- Below the editor only the two preferences for checks matter. -/
theorem finishRun_congr (session : Session) {widgets others : Widgets} (click : Option Button)
    (autoCheck : widgets.autoCheck = others.autoCheck)
    (autoReplace : widgets.autoReplace = others.autoReplace) :
    session.finishRun widgets click = session.finishRun others click := by
  rw [Session.finishRun_eq, Session.finishRun_eq, autoCheck, autoReplace]

/-- On a settled page, a choice of what is remembered does nothing to the session. -/
theorem Settled.session_interact_of_remembered {page : Page} (settled : Settled page)
    {upload : Option (Option Upload)} {sample : Option Text}
    (uploadKnown : ∀ file, upload.getD page.widgets.upload = some file →
      page.session.uploadedName = some file.name)
    (sampleKnown : sample.getD page.widgets.sample = noSample ∨
      page.session.sampleName = some (sample.getD page.widgets.sample)) :
    (page.interact { upload, sample }).session = (page.interact {}).session := by
  have chosen : page.beforeCheck { upload, sample } = _ :=
    drawTop_of_loaded page.session (page.widgets.set { upload, sample }) none uploadKnown
      sampleKnown (by simp)
  have idle : page.beforeCheck {} = _ :=
    drawTop_of_loaded page.session (page.widgets.set {}) none settled.upload settled.sample
      (by simp)
  rw [session_interact, session_interact, chosen, idle]
  unfold Widgets.drawEditor Widgets.set
  dsimp only
  split
  · exact finishRun_congr _ _ rfl rfl
  · exact finishRun_congr _ _ rfl rfl

/-! ## Choosing a source -/

/-- Whatever was done before, choosing a sample or uploading a file puts its text in place of the
code, perhaps with its shortcuts replaced by the check that is then due, if the last sample or file
had another name. Otherwise the run leaves the session that it would have left without it. -/
theorem choice_loaded_unless_remembered (history : List Interaction) :
    let page := replay history
    (∀ choice text, Sample.builtIn.get? choice = some text →
      let after := page.interact { sample := some choice }
      (lastSample history ≠ some choice →
        after.session.code = text ∨
          (page.widgets.autoReplace = true ∧
            after.session.code = Shortcut.expand Shortcut.standard text)) ∧
      (lastSample history = some choice → after.session = (page.interact {}).session)) ∧
    ∀ file : Upload,
      let after := page.interact { upload := some (some file) }
      (lastUpload history ≠ some file.name →
        after.session.code = decodeUpload file.bytes ∨
          (page.widgets.autoReplace = true ∧
            after.session.code =
              Shortcut.expand Shortcut.standard (decodeUpload file.bytes))) ∧
      (lastUpload history = some file.name → after.session = (page.interact {}).session) := by
  intro page
  have reachable := reachable_replay history
  have settled := reachable.settled
  obtain ⟨uploadedName, sampleName⟩ := names_replay history
  rw [← uploadedName, ← sampleName]
  constructor
  · intro choice text known after
    constructor
    · intro other
      exact code_interact_of_loaded rfl (reachable.code_beforeCheck_sample known other)
    · intro same
      exact settled.session_interact_of_remembered settled.upload (.inr same)
  · intro file after
    constructor
    · intro other
      exact code_interact_of_loaded rfl (reachable.code_beforeCheck_upload other)
    · intro same
      refine settled.session_interact_of_remembered (fun chosen found => ?_) settled.sample
      cases found
      exact same

/-- On the first page a sample is loaded. A second file with the name of the first one is passed
over, although it has other bytes. -/
theorem sample_loaded_and_second_file_passed_over :
    (start.interact { sample := some "samples/fail_01_equals_assignment.pseudo" }).session.code =
        Sample.failEqualsAssignment ∧
      let page := replay [{ upload := some (some ⟨"a.txt", [0x31]⟩) }]
      (page.interact { upload := some (some ⟨"a.txt", [0x32]⟩) }).session =
        (page.interact {}).session := by
  constructor
  · have known : Sample.builtIn.get? "samples/fail_01_equals_assignment.pseudo" =
        some Sample.failEqualsAssignment := rfl
    rcases ((choice_loaded_unless_remembered []).1 _ _ known).1 (by decide) with
      loaded | ⟨-, replaced⟩
    · exact loaded
    · exact replaced.trans (Shortcut.expand_standard _)
  · exact ((choice_loaded_unless_remembered [{ upload := some (some ⟨"a.txt", [0x31]⟩) }]).2
      ⟨"a.txt", [0x32]⟩).2 (by decide)

/-- Not every choice is loaded: a sample that is chosen again after the box was emptied is passed
over, and so is a file with the name of the last one and other bytes. -/
theorem repeated_choice_not_loaded :
    (¬ ∀ (history : List Interaction) (choice text : Text),
      Sample.builtIn.get? choice = some text → (replay history).widgets.sample ≠ choice →
        let after := (replay history).interact { sample := some choice }
        after.session.code = text ∨
          ((replay history).widgets.autoReplace = true ∧
            after.session.code = Shortcut.expand Shortcut.standard text)) ∧
    ¬ ∀ (history : List Interaction) (file : Upload),
      (history.filterMap (·.upload.join)).getLast? ≠ some file →
        let after := (replay history).interact { upload := some (some file) }
        after.session.code = decodeUpload file.bytes ∨
          ((replay history).widgets.autoReplace = true ∧
            after.session.code =
              Shortcut.expand Shortcut.standard (decodeUpload file.bytes)) := by
  constructor
  · intro loads
    -- With shortcuts left alone no check puts another code in place of the code.
    let history : List Interaction :=
      [{ sample := some "samples/fail_05_undeclared.pseudo", autoReplace := some false },
        { click := some .clear }, { sample := some noSample }]
    let after :=
      (replay history).interact { sample := some "samples/fail_05_undeclared.pseudo" }
    have facts : Sample.builtIn.get? "samples/fail_05_undeclared.pseudo" =
          some Sample.failUndeclared ∧
        (replay history).widgets.sample ≠ "samples/fail_05_undeclared.pseudo" ∧
        after.session.code ≠ Sample.failUndeclared ∧
        (replay history).widgets.autoReplace ≠ true := by
      decide +kernel
    obtain ⟨known, elsewhere, notLoaded, leaves⟩ := facts
    rcases loads history _ _ known elsewhere with loaded | ⟨replaces, -⟩
    · exact notLoaded loaded
    · exact leaves replaces
  · intro loads
    let history : List Interaction :=
      [{ upload := some (some ⟨"a.txt", [0x31]⟩), autoReplace := some false }]
    let after := (replay history).interact { upload := some (some ⟨"a.txt", [0x32]⟩) }
    have facts : after.session.code ≠ decodeUpload [0x32] ∧
        (replay history).widgets.autoReplace ≠ true := by
      decide +kernel
    rcases loads history ⟨"a.txt", [0x32]⟩ (by decide) with loaded | ⟨replaces, -⟩
    · exact facts.1 loaded
    · exact facts.2 replaces

end PseudoLint.Page
