import DatasetGate.Proofs.RepositoryGate

/-!
# The identity of repositories

What the checks of addresses and paths establish together: every row is that of one repository,
and the path or one of the addresses alone identifies the repository. Owners and names may hold
anything, slashes included, until the format of the paths is checked too.
-/

set_option autoImplicit false

namespace DatasetGate

open DatasetGate.Calendar

namespace Repository

theorem path_injective : Function.Injective path := by
  intro repository other same
  obtain ⟨owners, names⟩ := path_eq_iff.mp (show repository.owner.text ++ "/" ++
    repository.name.text = other.path from same)
  cases repository with
  | mk owner name =>
      cases owner
      cases name
      cases owners
      cases names
      rfl

theorem url_injective : Function.Injective url := by
  intro repository other same
  exact path_injective ((String.append_right_inj _).mp same)

theorem sshUrl_injective : Function.Injective sshUrl := by
  intro repository other same
  have starts := (String.append_left_inj _).mp same
  exact path_injective ((String.append_right_inj _).mp starts)

/-- A text in the format of paths is the path of a repository. -/
theorem exists_path {text : String} (formed : IsRepositoryPath text.toList) :
    ∃ repository : Repository, text = repository.path := by
  obtain ⟨owner, name, shape, ownerSome, nameSome, chars⟩ := formed
  have ownerChars : ∀ c ∈ owner, NameChar c := fun c member =>
    chars c (List.mem_append_left name member)
  have nameChars : ∀ c ∈ name, NameChar c := fun c member =>
    chars c (List.mem_append_right owner member)
  refine ⟨⟨⟨String.ofList owner, by simpa using ownerSome, by simpa using ownerChars⟩,
    ⟨String.ofList name, by simpa using nameSome, by simpa using nameChars⟩⟩, ?_⟩
  rw [← String.toList_inj, shape]
  simp [path]

end Repository

/-- A row is that of a repository: its columns show the repository's owner, name, path and
addresses. -/
structure Frame.RowOf (frame : Frame) (row : Nat) (repository : Repository) : Prop where
  path : frame.textAt? "baseRepo" row = some repository.path
  url : frame.textAt? "url" row = some repository.url
  sshUrl : frame.textAt? "sshUrl" row = some repository.sshUrl
  owner : frame.textAt? "owner" row = some repository.owner.text
  name : frame.textAt? "name" row = some repository.name.text

namespace Frame.RowOf

variable {frame : Frame} {row row' : Nat} {repository repository' : Repository}

/-- Rows that agree in their path, or in one of their addresses, are those of one repository. -/
theorem eq_of_agree (standing : frame.RowOf row repository)
    (standing' : frame.RowOf row' repository') {column : String}
    (identifies : column ∈ ["baseRepo", "url", "sshUrl"])
    (agree : frame.textAt? column row = frame.textAt? column row') : repository = repository' := by
  simp only [List.mem_cons, List.not_mem_nil, or_false] at identifies
  rcases identifies with rfl | rfl | rfl
  · rw [standing.path, standing'.path, Option.some_inj] at agree
    exact Repository.path_injective agree
  · rw [standing.url, standing'.url, Option.some_inj] at agree
    exact Repository.url_injective agree
  · rw [standing.sshUrl, standing'.sshUrl, Option.some_inj] at agree
    exact Repository.sshUrl_injective agree

theorem agree (standing : frame.RowOf row repository) (standing' : frame.RowOf row' repository)
    {column : String} (shown : column ∈ ["baseRepo", "url", "sshUrl", "owner", "name"]) :
    frame.textAt? column row = frame.textAt? column row' := by
  simp only [List.mem_cons, List.not_mem_nil, or_false] at shown
  rcases shown with rfl | rfl | rfl | rfl | rfl
  · rw [standing.path, standing'.path]
  · rw [standing.url, standing'.url]
  · rw [standing.sshUrl, standing'.sshUrl]
  · rw [standing.owner, standing'.owner]
  · rw [standing.name, standing'.name]

end Frame.RowOf

namespace Plan

variable {frame : Frame} {plan : Plan} {now : Instant} {result : PlanResult}

/-- The format of the path makes its parts the owner and the name, and the other checks compare them
with the row. -/
theorem exists_rowOf (formed : frame.WellFormed)
    (judged : ∀ check ∈ Repository.checks, (check.judge frame now).result = .ok true) {row : Nat}
    (bound : row < frame.height) : ∃ repository, frame.RowOf row repository := by
  have member : .urls .sshUrl ∈ Repository.checks ∧ .urls .url ∈ Repository.checks ∧
      .repoName .baseRepo ∈ Repository.checks ∧ .repoNameFormat .baseRepo ∈ Repository.checks := by
    decide
  obtain ⟨ssh, https, joined, format⟩ := member
  obtain ⟨text, shown, wellFormed⟩ :=
    (Check.judgeRepoNameFormat_passed_iff formed (judged _ format)).mp rfl row bound
  obtain ⟨repository, rfl⟩ := Repository.exists_path wellFormed
  obtain ⟨owner, name, ownerShown, nameShown, parts⟩ :=
    (Check.judgeRepoName_passed_iff formed (judged _ joined)).mp rfl row bound
  have path : frame.textAt? "baseRepo" row = some repository.path := shown
  rw [path, Option.some_inj] at parts
  obtain ⟨rfl, rfl⟩ := Repository.path_eq_iff.mp parts.symm
  have address {column : UrlColumn} (paired : column.pair = ("owner", "name"))
      (addressed : (Check.judgeUrls frame column).result = .ok true) :
      frame.textAt? column.name row =
        some (column.addressOf repository.owner.text repository.name.text) := by
    obtain ⟨owner, name, ownerShown', nameShown', address⟩ :=
      (Check.judgeUrls_passed_iff formed addressed).mp rfl row bound
    rw [paired] at ownerShown' nameShown'
    rw [ownerShown, Option.some_inj] at ownerShown'
    rw [nameShown, Option.some_inj] at nameShown'
    rw [address, ← ownerShown', ← nameShown']
  have url := address rfl (judged _ https)
  have sshUrl := address rfl (judged _ ssh)
  rw [Repository.addressOf_url] at url
  rw [Repository.addressOf_sshUrl] at sshUrl
  exact ⟨repository, path, url, sshUrl, ownerShown, nameShown⟩

/-- Where a plan with these checks passes, every row is that of one repository, the only one with
the path of the row, and rows that agree in their path or in an address agree in everything. -/
theorem run_identifies (formed : frame.WellFormed)
    (checked : ∀ check ∈ Repository.checks, check ∈ plan.checks)
    (finished : (plan.run frame now).result = .ok result) (passed : result.passed = true) :
    (∀ row < frame.height, ∃ repository, frame.RowOf row repository ∧
      ∀ other : Repository, frame.textAt? "baseRepo" row = some other.path → other = repository) ∧
    ∀ row < frame.height, ∀ row' < frame.height, ∀ column ∈ ["baseRepo", "url", "sshUrl"],
      frame.textAt? column row = frame.textAt? column row' →
        ∀ shown ∈ ["baseRepo", "url", "sshUrl", "owner", "name"],
          frame.textAt? shown row = frame.textAt? shown row' := by
  have judged : ∀ check ∈ Repository.checks, (check.judge frame now).result = .ok true :=
    fun check member => (passed_iff_of_run finished).mp passed check (checked check member)
  constructor
  · intro row bound
    obtain ⟨repository, standing⟩ := exists_rowOf formed judged bound
    refine ⟨repository, standing, fun other shown => ?_⟩
    rw [standing.path, Option.some_inj] at shown
    exact (Repository.path_injective shown).symm
  · intro row bound row' bound' column identifies agree shown listed
    obtain ⟨repository, standing⟩ := exists_rowOf formed judged bound
    obtain ⟨repository', standing'⟩ := exists_rowOf formed judged bound'
    obtain rfl := standing.eq_of_agree standing' identifies agree
    exact standing.agree standing' listed

/-- Two rows of one repository, and a row of another one of the same owner. -/
def ownedFrame : Frame :=
  ⟨[⟨"owner", .text, [.text "octo", .text "octo", .text "octo"]⟩,
    ⟨"name", .text, [.text "cat", .text "2048", .text "cat"]⟩,
    ⟨"url", .text, [.text "https://github.com/octo/cat", .text "https://github.com/octo/2048",
      .text "https://github.com/octo/cat"]⟩,
    ⟨"sshUrl", .text, [.text "ssh://git@github.com:octo/cat.git",
      .text "ssh://git@github.com:octo/2048.git", .text "ssh://git@github.com:octo/cat.git"]⟩,
    ⟨"baseRepo", .text, [.text "octo/cat", .text "octo/2048", .text "octo/cat"]⟩]⟩

theorem ownedFrame_formed : ownedFrame.WellFormed where
  aligned := by simp [ownedFrame, Frame.height]
  distinct := by simp [ownedFrame, Frame.names]
  typed := by simp [ownedFrame, ColumnType.Holds]

theorem run_identifies_owned :
    ownedFrame.WellFormed ∧
    ((Plan.mk (.value "owner" (.text "octo") :: Repository.checks)).run ownedFrame ⟨0, 0⟩).result =
      .ok ⟨[(.value "owner" (.text "octo"), true), (.urls .sshUrl, true), (.urls .url, true),
        (.repoName .baseRepo, true), (.repoNameFormat .baseRepo, true)]⟩ ∧
    (∃ repository, ownedFrame.RowOf 1 repository) ∧
    ownedFrame.textAt? "sshUrl" 0 = ownedFrame.textAt? "sshUrl" 2 ∧
    ownedFrame.textAt? "name" 0 = ownedFrame.textAt? "name" 2 := by
  have ran : ((Plan.mk (.value "owner" (.text "octo") :: Repository.checks)).run ownedFrame
      ⟨0, 0⟩).result =
        .ok ⟨[(.value "owner" (.text "octo"), true), (.urls .sshUrl, true), (.urls .url, true),
          (.repoName .baseRepo, true), (.repoNameFormat .baseRepo, true)]⟩ := rfl
  have agree : ownedFrame.textAt? "sshUrl" 0 = ownedFrame.textAt? "sshUrl" 2 := rfl
  obtain ⟨identified, consistent⟩ :=
    run_identifies ownedFrame_formed (fun _ => List.mem_cons_of_mem _) ran rfl
  obtain ⟨repository, standing, -⟩ := identified 1 (by decide)
  exact ⟨ownedFrame_formed, ran, ⟨repository, standing⟩, agree,
    consistent 0 (by decide) 2 (by decide) "sshUrl" (by decide) agree "name" (by decide)⟩

end Plan
end DatasetGate
