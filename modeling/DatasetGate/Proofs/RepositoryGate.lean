import DatasetGate.Proofs.GateRun
import DatasetGate.Proofs.Verdicts

/-!
# The gate on repositories

A table of repositories whose addresses and paths are those of their owners and names, run through the
whole gate without a plan. It passes exactly when the types guessed for the columns of owners and of
names keep how every one of them is spelled.
-/

set_option autoImplicit false

namespace DatasetGate

open DatasetGate.Calendar DatasetGate.Dataset DatasetGate.Text

structure Identifier where
  text : String
  nonempty : text.toList ≠ []
  chars : ∀ c ∈ text.toList, NameChar c

structure Repository where
  owner : Identifier
  name : Identifier

namespace Repository

def path (repository : Repository) : String :=
  repository.owner.text ++ "/" ++ repository.name.text

/-- The address for reading. -/
def url (repository : Repository) : String :=
  "https://github.com/" ++ repository.path

/-- The address for cloning. -/
def sshUrl (repository : Repository) : String :=
  "ssh://git@github.com:" ++ repository.path ++ ".git"

def ownerColumn : String × (Repository → String) :=
  ("owner", fun repository => repository.owner.text)

def nameColumn : String × (Repository → String) :=
  ("name", fun repository => repository.name.text)

/-- The columns of a table of repositories, with what they hold for each. -/
def columns : List (String × (Repository → String)) :=
  [ownerColumn, nameColumn, ("url", url), ("sshUrl", sshUrl), ("baseRepo", path)]

/-- The checks of the plan that is inferred for a table of repositories. -/
def checks : List Check :=
  [.urls .sshUrl, .urls .url, .repoName .baseRepo, .repoNameFormat .baseRepo]

end Repository

theorem NameChar.plainChar {c : Char} (named : NameChar c) : PlainChar c := by
  have excluded : ∀ d : Char, ¬ NameChar d → c ≠ d := by
    rintro d other rfl
    exact other named
  refine ⟨excluded _ ?_, excluded _ ?_, excluded _ ?_, excluded _ ?_⟩
  all_goals decide

theorem NameChar.isIndent_eq_false {c : Char} (named : NameChar c) : isIndent c = false := by
  cases indent : isIndent c with
  | false => rfl
  | true =>
      simp only [isIndent, Bool.or_eq_true, decide_eq_true_eq] at indent
      rcases indent with rfl | rfl
      · exact absurd named (by decide)
      · exact absurd named (by decide)

theorem Identifier.plainText (identifier : Identifier) : PlainText identifier.text where
  nonempty := identifier.nonempty
  plain c member := (identifier.chars c member).plainChar
  flush c member :=
    (identifier.chars c (List.mem_of_mem_head? member)).isIndent_eq_false

namespace Repository

theorem slash_mem_path (repository : Repository) : '/' ∈ repository.path.toList := by
  simp [path]

theorem slash_mem_url (repository : Repository) : '/' ∈ repository.url.toList := by
  change '/' ∈ ("https://github.com/" ++ repository.path).toList
  rw [String.toList_append]
  exact List.mem_append_right _ repository.slash_mem_path

theorem slash_mem_sshUrl (repository : Repository) : '/' ∈ repository.sshUrl.toList := by
  change '/' ∈ ("ssh://git@github.com:" ++ repository.path ++ ".git").toList
  rw [String.toList_append, String.toList_append]
  exact List.mem_append_left _ (List.mem_append_right _ repository.slash_mem_path)

theorem plainText_path (repository : Repository) : PlainText repository.path :=
  (repository.owner.plainText.append (by simp [PlainChar])).append repository.name.plainText.plain

theorem plainText_url (repository : Repository) : PlainText repository.url :=
  have scheme : PlainText "https://github.com/" :=
    ⟨by simp, by simp [PlainChar], by simp [isIndent]⟩
  scheme.append repository.plainText_path.plain

theorem plainText_sshUrl (repository : Repository) : PlainText repository.sshUrl :=
  have scheme : PlainText "ssh://git@github.com:" :=
    ⟨by simp, by simp [PlainChar], by simp [isIndent]⟩
  (scheme.append repository.plainText_path.plain).append (by simp [PlainChar])

theorem mem_columns {column : String × (Repository → String)} :
    column ∈ columns ↔ column = ownerColumn ∨ column = nameColumn ∨ column = ("url", url) ∨
      column = ("sshUrl", sshUrl) ∨ column = ("baseRepo", path) := by
  simp only [columns, List.mem_cons, List.not_mem_nil, or_false]

theorem url_mem_columns : ("url", url) ∈ columns :=
  mem_columns.mpr (.inr (.inr (.inl rfl)))

theorem sshUrl_mem_columns : ("sshUrl", sshUrl) ∈ columns :=
  mem_columns.mpr (.inr (.inr (.inr (.inl rfl))))

theorem path_mem_columns : ("baseRepo", path) ∈ columns :=
  mem_columns.mpr (.inr (.inr (.inr (.inr rfl))))

theorem plainTable (repositories : List Repository) : PlainTable columns repositories where
  nonempty := by simp [columns]
  names := by
    intro column member
    rcases mem_columns.mp member with rfl | rfl | rfl | rfl | rfl
    all_goals exact ⟨by simp [ownerColumn, nameColumn],
      by simp [PlainChar, ownerColumn, nameColumn], by simp [isIndent, ownerColumn, nameColumn]⟩
  texts := by
    intro column member repository _
    rcases mem_columns.mp member with rfl | rfl | rfl | rfl | rfl
    · exact repository.owner.plainText
    · exact repository.name.plainText
    · exact repository.plainText_url
    · exact repository.plainText_sshUrl
    · exact repository.plainText_path
  distinct := by simp [columns, ownerColumn, nameColumn]
  ascii := by
    intro c member
    have first : 'o' = c := by simpa [columns, ownerColumn, lineOf] using member
    rw [← first]
    decide

theorem not_blank_columns : ∀ column ∈ columns, isBlankName column.1 = false := by
  intro column member
  rcases mem_columns.mp member with rfl | rfl | rfl | rfl | rfl
  all_goals rfl

/-- A path takes apart into its owner and its name, whatever is put together to give it. -/
theorem path_eq_iff {repository : Repository} {owner name : String} :
    owner ++ "/" ++ name = repository.path ↔
      owner = repository.owner.text ∧ name = repository.name.text := by
  constructor
  · intro same
    have lists : owner.toList ++ '/' :: name.toList =
        repository.owner.text.toList ++ '/' :: repository.name.text.toList := by
      simpa [path] using congrArg String.toList same
    have ownSlash : ∀ identifier : Identifier, '/' ∉ identifier.text.toList :=
      fun identifier member => absurd (identifier.chars '/' member) (by decide)
    have single : owner.toList.count '/' = 0 ∧ name.toList.count '/' = 0 := by
      have counts := congrArg (List.count '/') lists
      simp only [List.count_append, List.count_cons_self,
        List.count_eq_zero.mpr (ownSlash _)] at counts
      omega
    obtain ⟨owners, -, names⟩ := (List.append_cons_inj_of_notMem
      (List.count_eq_zero.mp single.1) (List.count_eq_zero.mp single.2)).mp lists
    exact ⟨String.toList_inj.mp owners, String.toList_inj.mp names⟩
  · rintro ⟨rfl, rfl⟩
    rfl

theorem isRepositoryPath_path (repository : Repository) :
    IsRepositoryPath repository.path.toList := by
  refine ⟨repository.owner.text.toList, repository.name.text.toList, by simp [path],
    repository.owner.nonempty, repository.name.nonempty, ?_⟩
  intro c member
  exact (List.mem_append.mp member).elim (repository.owner.chars c) (repository.name.chars c)

theorem addressOf_url (repository : Repository) :
    UrlColumn.url.addressOf repository.owner.text repository.name.text = repository.url := by
  change "https://github.com/" ++ repository.owner.text ++ "/" ++ repository.name.text ++ "" =
    "https://github.com/" ++ (repository.owner.text ++ "/" ++ repository.name.text)
  simp only [String.append_assoc, String.append_empty]

theorem addressOf_sshUrl (repository : Repository) :
    UrlColumn.sshUrl.addressOf repository.owner.text repository.name.text = repository.sshUrl := by
  change "ssh://git@github.com:" ++ repository.owner.text ++ "/" ++ repository.name.text ++ ".git" =
    "ssh://git@github.com:" ++ (repository.owner.text ++ "/" ++ repository.name.text) ++ ".git"
  simp only [String.append_assoc]

section Frame

variable {repositories : List Repository}

theorem infer_checks : (Plan.infer (tableFrame columns repositories) .none).checks = checks := by
  rfl

/-- A column whose texts all have a slash is one of text. -/
theorem typeOf_eq_text (nonempty : repositories ≠ []) {text : Repository → String}
    (slash : ∀ repository, '/' ∈ (text repository).toList) (name : String) :
    typeOf repositories (name, text) = .text := by
  apply guessedType_eq_text
  · simpa using nonempty
  · intro shown listed
    obtain ⟨repository, -, rfl⟩ := List.mem_map.mp listed
    exact slash repository

theorem shows_of_slash {name : String} {text : Repository → String}
    (member : (name, text) ∈ columns) (slash : ∀ repository, '/' ∈ (text repository).toList)
    {index : Nat} {repository : Repository} (found : repositories[index]? = some repository) :
    (tableFrame columns repositories).textAt? name index = some (text repository) := by
  have nonempty : repositories ≠ [] := List.ne_nil_of_mem (List.mem_of_getElem? found)
  rw [textAt?_tableFrame (plainTable repositories) member found, typeOf_eq_text nonempty slash]
  trivial

/-- A row agrees in its owner and its name exactly when the types of their columns keep both. -/
theorem shows_iff_keeps {index : Nat} {repository : Repository}
    (found : repositories[index]? = some repository) :
    ((tableFrame columns repositories).textAt? "owner" index = some repository.owner.text ∧
      (tableFrame columns repositories).textAt? "name" index = some repository.name.text) ↔
      Keeps (typeOf repositories ownerColumn) repository.owner.text ∧
        Keeps (typeOf repositories nameColumn) repository.name.text :=
  and_congr (textAt?_tableFrame (plainTable repositories) (mem_columns.mpr (.inl rfl)) found)
    (textAt?_tableFrame (plainTable repositories) (mem_columns.mpr (.inr (.inl rfl))) found)

theorem exists_result (nonempty : repositories ≠ []) (now : Instant) :
    ∃ result, ((Plan.infer (tableFrame columns repositories) .none).run
      (tableFrame columns repositories) now).result = .ok result := by
  have textual {name : String} {text : Repository → String} (member : (name, text) ∈ columns)
      (slash : ∀ repository, '/' ∈ (text repository).toList) :
      ∃ target, (tableFrame columns repositories).column? name = some target ∧
        target.type.isTextual = true :=
    ⟨_, column?_tableFrame (plainTable repositories) member,
      congrArg ColumnType.isTextual (typeOf_eq_text nonempty slash name)⟩
  apply Plan.exists_result
  intro check member
  simp only [infer_checks, checks, List.mem_cons, List.not_mem_nil, or_false] at member
  rcases member with rfl | rfl | rfl | rfl
  · obtain ⟨target, found, text⟩ := textual sshUrl_mem_columns slash_mem_sshUrl
    exact Check.exists_judged_urls found text rfl rfl
  · obtain ⟨target, found, text⟩ := textual url_mem_columns slash_mem_url
    exact Check.exists_judged_urls found text rfl rfl
  · obtain ⟨target, found, text⟩ := textual path_mem_columns slash_mem_path
    exact Check.exists_judged_repoName found text rfl rfl
  · obtain ⟨target, found, text⟩ := textual path_mem_columns slash_mem_path
    exact Check.exists_judged_repoNameFormat found text

/-- The check of paths alone already needs every owner and every name to be kept. -/
theorem keeps_of_judged (readable : Readable columns repositories) {now : Instant}
    (judged : ((Check.repoName .baseRepo).judge (tableFrame columns repositories) now).result =
      .ok true) {repository : Repository} (member : repository ∈ repositories) :
    Keeps (typeOf repositories ownerColumn) repository.owner.text ∧
      Keeps (typeOf repositories nameColumn) repository.name.text := by
  have formed := wellFormed_tableFrame (plainTable repositories) readable
  obtain ⟨row, found⟩ := List.mem_iff_getElem?.mp member
  have bound : row < (tableFrame columns repositories).height := by
    rw [height_tableFrame (plainTable repositories).nonempty]
    exact (List.getElem?_eq_some_iff.mp found).1
  obtain ⟨owner, name, ownerShown, nameShown, shown⟩ :=
    (Check.judgeRepoName_passed_iff formed judged).mp rfl row bound
  rw [shows_of_slash path_mem_columns slash_mem_path found, Option.some_inj] at shown
  obtain ⟨rfl, rfl⟩ := path_eq_iff.mp shown.symm
  exact (shows_iff_keeps found).mp ⟨ownerShown, nameShown⟩

theorem judged_of_keeps (readable : Readable columns repositories) {now : Instant}
    (kept : ∀ repository ∈ repositories,
      Keeps (typeOf repositories ownerColumn) repository.owner.text ∧
        Keeps (typeOf repositories nameColumn) repository.name.text)
    {check : Check} (member : check ∈ checks) {passed : Bool}
    (judged : (check.judge (tableFrame columns repositories) now).result = .ok passed) :
    passed = true := by
  have formed := wellFormed_tableFrame (plainTable repositories) readable
  have rows : ∀ row < (tableFrame columns repositories).height,
      ∃ repository, repositories[row]? = some repository ∧
        (tableFrame columns repositories).textAt? "owner" row = some repository.owner.text ∧
          (tableFrame columns repositories).textAt? "name" row = some repository.name.text := by
    intro row bound
    rw [height_tableFrame (plainTable repositories).nonempty] at bound
    have found := List.getElem?_eq_getElem bound
    exact ⟨_, found, (shows_iff_keeps found).mpr (kept _ (List.mem_of_getElem? found))⟩
  simp only [checks, List.mem_cons, List.not_mem_nil, or_false] at member
  rcases member with rfl | rfl | rfl | rfl
  · refine (Check.judgeUrls_passed_iff formed judged).mpr fun row bound => ?_
    obtain ⟨repository, found, owner, name⟩ := rows row bound
    refine ⟨_, _, owner, name, ?_⟩
    rw [addressOf_sshUrl]
    exact shows_of_slash sshUrl_mem_columns slash_mem_sshUrl found
  · refine (Check.judgeUrls_passed_iff formed judged).mpr fun row bound => ?_
    obtain ⟨repository, found, owner, name⟩ := rows row bound
    refine ⟨_, _, owner, name, ?_⟩
    rw [addressOf_url]
    exact shows_of_slash url_mem_columns slash_mem_url found
  · refine (Check.judgeRepoName_passed_iff formed judged).mpr fun row bound => ?_
    obtain ⟨repository, found, owner, name⟩ := rows row bound
    exact ⟨_, _, owner, name, shows_of_slash path_mem_columns slash_mem_path found⟩
  · refine (Check.judgeRepoNameFormat_passed_iff formed judged).mpr fun row bound => ?_
    obtain ⟨repository, found, -, -⟩ := rows row bound
    exact ⟨_, shows_of_slash path_mem_columns slash_mem_path found,
      repository.isRepositoryPath_path⟩

/-- The checks pass exactly when every owner and every name is kept. -/
theorem passed_iff_keeps (readable : Readable columns repositories) {now : Instant}
    {result : PlanResult}
    (finished : ((Plan.infer (tableFrame columns repositories) .none).run
      (tableFrame columns repositories) now).result = .ok result) :
    result.passed = true ↔ ∀ repository ∈ repositories,
      Keeps (typeOf repositories ownerColumn) repository.owner.text ∧
        Keeps (typeOf repositories nameColumn) repository.name.text := by
  rw [Plan.passed_iff_of_run finished, infer_checks]
  constructor
  · intro judged repository member
    exact keeps_of_judged readable (judged (.repoName .baseRepo) (by simp [checks])) member
  · intro kept check member
    obtain ⟨passed, judged⟩ := Plan.exists_judged finished (infer_checks ▸ member)
    rw [judged, judged_of_keeps readable kept member judged]

/-- Where every owner and every name is kept, all texts of the table can be read. -/
theorem readable_of_keeps (kept : ∀ repository ∈ repositories,
    Keeps (typeOf repositories ownerColumn) repository.owner.text ∧
      Keeps (typeOf repositories nameColumn) repository.name.text) :
    Readable columns repositories := by
  intro repository member column listed
  have nonempty : repositories ≠ [] := List.ne_nil_of_mem member
  have keeps : Keeps (typeOf repositories column) (column.2 repository) := by
    rcases mem_columns.mp listed with rfl | rfl | rfl | rfl | rfl
    · exact (kept repository member).1
    · exact (kept repository member).2
    · rw [typeOf_eq_text nonempty slash_mem_url]
      trivial
    · rw [typeOf_eq_text nonempty slash_mem_sshUrl]
      trivial
    · rw [typeOf_eq_text nonempty slash_mem_path]
      trivial
  have plain := (plainTable repositories).texts column listed repository member
  obtain ⟨cell, read, -⟩ := (keeps_iff plain _).mp keeps
  exact Option.isSome_iff_exists.mpr ⟨cell, read⟩

end Frame

end Repository

def GateOptions.ofDataset (path : String) : GateOptions :=
  ⟨path, none, .none, none⟩

namespace Gate

theorem run_ofDataset_eq_ok_iff {path : String} {files : Files} {now : Instant}
    {result : GateResult} :
    (run (.ofDataset path) files now).result = .ok result ↔
      ∃ frame found, Dataset.load files path Dataset.defaultLimit = .ok frame ∧
        ((Plan.infer frame .none).run frame now).result = .ok found ∧
          result = ⟨path, frame.height, found,
            ((Plan.infer frame .none).run frame now).outcomes, none⟩ := by
  rw [run_result_eq_ok_iff rfl]
  constructor
  · rintro ⟨frame, plan, found, loaded, chosen, ran, rfl⟩
    cases chosen
    exact ⟨frame, found, loaded, ran, rfl⟩
  · rintro ⟨frame, found, loaded, ran, rfl⟩
    exact ⟨frame, _, found, loaded, rfl, ran, rfl⟩

/-- A table of repositories that is not too large passes exactly when the types guessed for its owners
and for its names keep them all. Whatever the verdict, a result counts every repository and holds the
checks of addresses and paths. -/
theorem run_repositories {repositories : List Repository} (nonempty : repositories ≠ [])
    {ended : Bool} {files : Files} {path : String} (now : Instant)
    (found : files.find path =
      .ok (.file (Utf8.encode (tableText Repository.columns repositories ended))))
    (small : (Utf8.encode (tableText Repository.columns repositories ended)).length ≤
      Dataset.defaultLimit) :
    (∀ result, (run (.ofDataset path) files now).result = .ok result →
      result.records = repositories.length ∧
        result.plan.results.map Prod.fst = Repository.checks) ∧
    ((∃ result, (run (.ofDataset path) files now).result = .ok result ∧ result.passed = true) ↔
      ∀ repository ∈ repositories,
        Keeps (typeOf repositories Repository.ownerColumn) repository.owner.text ∧
          Keeps (typeOf repositories Repository.nameColumn) repository.name.text) := by
  have loads (frame : Frame) : Dataset.load files path Dataset.defaultLimit = .ok frame ↔
      Readable Repository.columns repositories ∧
        frame = tableFrame Repository.columns repositories :=
    load_tableText (Repository.plainTable repositories) nonempty Repository.not_blank_columns found
      small
  simp only [run_ofDataset_eq_ok_iff, loads]
  refine ⟨?_, ?_, ?_⟩
  · rintro _ ⟨_, judged, ⟨-, rfl⟩, finished, rfl⟩
    exact ⟨height_tableFrame (Repository.plainTable repositories).nonempty,
      (Plan.run_result_eq_ok_iff.mp finished).1⟩
  · rintro ⟨_, ⟨_, judged, ⟨readable, rfl⟩, finished, rfl⟩, passed⟩
    exact (Repository.passed_iff_keeps readable finished).mp passed
  · intro kept
    have readable := Repository.readable_of_keeps kept
    obtain ⟨judged, finished⟩ := Repository.exists_result nonempty now
    exact ⟨_, ⟨_, judged, ⟨readable, rfl⟩, finished, rfl⟩,
      (Repository.passed_iff_keeps readable finished).mpr kept⟩

def octoCat : Repository :=
  ⟨⟨"octo", by simp, by simp [NameChar]⟩, ⟨"cat", by simp, by simp [NameChar]⟩⟩

/-- A repository whose owner is spelled as a number with zeros before it. -/
def bondCat : Repository :=
  ⟨⟨"007", by simp, by simp [NameChar]⟩, ⟨"cat", by simp, by simp [NameChar]⟩⟩

def filesOf (repositories : List Repository) : Files :=
  ⟨[(["d.csv"], .file (Utf8.encode (tableText Repository.columns repositories true)))]⟩

theorem not_keeps_bond : ¬ Keeps (.integer .signed64) "007" := by
  rintro ⟨value, -, shown⟩
  have read := readInteger?_toString value
  rw [← shown] at read
  have seven : (7 : Int) = value := Option.some.inj read
  rw [← seven] at shown
  exact absurd shown (by decide)

theorem run_repositories_octoCat_bondCat :
    (∃ result, (run (.ofDataset "d.csv") (filesOf [octoCat]) ⟨0, 0⟩).result = .ok result ∧
      result.passed = true) ∧
    ¬ ∃ result, (run (.ofDataset "d.csv") (filesOf [bondCat]) ⟨0, 0⟩).result = .ok result ∧
      result.passed = true := by
  constructor
  · refine (run_repositories (List.cons_ne_nil octoCat []) ⟨0, 0⟩ rfl (by decide +kernel)).2.mpr ?_
    rw [List.forall_mem_singleton]
    exact ⟨trivial, trivial⟩
  · rw [(run_repositories (List.cons_ne_nil bondCat []) ⟨0, 0⟩ rfl (by decide +kernel)).2,
      List.forall_mem_singleton]
    exact fun kept => not_keeps_bond kept.1

end Gate
end DatasetGate
