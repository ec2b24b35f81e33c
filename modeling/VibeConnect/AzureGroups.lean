import VibeConnect.Python.Coroutine
import VibeConnect.Models
import VibeConnect.Python.Links

/-! `resolve_azure_ad_groups`: pages of groups that lead from one to the next. The loop runs
under a bound on its turns, and it ends where some bound is enough. -/
namespace VibeConnect.AzureGroups
open Python.Text Python.JsonCodec Python.Coroutine Python.Links Models

/-- A decoded JSON object. -/
abbrev Page := List (Str × Json)

/-- The pages that Microsoft Graph has by their URLs, and what its client raises for any other
URL. -/
structure GraphClient where
  pages : List (Str × Page)
  missing : Exc

def GraphClient.getJson (graph : GraphClient) (url : Str) : Except Exc Page :=
  match graph.pages.lookup url with
  | some page => .ok page
  | none => .error graph.missing

structure GroupRequest where
  userId : Str
  transitive : Bool
  timeoutMicros : Int

def firstUrl (request : GroupRequest) : Str :=
  lit "/users/" ++ request.userId ++ lit "/" ++
    (if request.transitive then lit "transitiveMemberOf" else lit "memberOf") ++ lit "?$select=id"

/-- The `id` of an entry that is an object with a text there. -/
def entryId : Json → Option Str
  | .object fields => match lookup (lit "id") fields with
      | some (.str id) => some id
      | _ => none
  | _ => none

def addEntries (groups : Finset Str) : List Json → Except Exc (Finset Str)
  | [] => .ok groups
  | entry :: rest => match entryId entry with
      | some id => addEntries (insert id groups) rest
      | none => .error (.authError "Graph response contains partial group entry")

/-- `next_link or ""`. -/
def nextUrl (page : Page) : Except Exc Str :=
  match lookup (lit "@odata.nextLink") page with
  | none | some .null => .ok []
  | some (.str link) => .ok link
  | some _ => .error (.authError "Graph nextLink is invalid")

/-- One turn of the loop after the request. -/
def readPage (groups : Finset Str) (page : Page) : Except Exc (Str × Finset Str) :=
  match lookup (lit "value") page with
  | some (.array values) => do
      let groups ← addEntries groups values
      let url ← nextUrl page
      .ok (url, groups)
  | _ => .error (.authError "Graph response missing value list")

/-- The `except TimeoutError` clause. -/
def timedOut : Exc → Exc
  | .timeoutError => .authError "Graph lookup timed out"
  | raised => raised

def turn (graph : GraphClient) (url : Str) (groups : Finset Str) : Except Exc (Str × Finset Str) :=
  match graph.getJson url with
  | .ok page => readPage groups page
  | .error raised => .error (timedOut raised)

/-- `while url`, for at most `turns` turns. `none` is a loop that goes on. -/
def loop (graph : GraphClient) : (turns : Nat) → Str → Finset Str → Option (Except Exc (Finset Str))
  | _, [], groups => some (.ok groups)
  | 0, _ :: _, _ => none
  | turns + 1, point :: rest, groups => match turn graph (point :: rest) groups with
      | .ok (url, groups) => loop graph turns url groups
      | .error raised => some (.error raised)

def resolveAzureAdGroups (graph : GraphClient) (request : GroupRequest) (turns : Nat) :
    Option (Except Exc (Finset Str)) :=
  if request.timeoutMicros ≤ 0 then some (.error (.authError "Graph timeout must be positive"))
  else loop graph turns (firstUrl request) ∅

/-! The chain of the pages. -/

/-- The page names the group. -/
def Names (page : Page) (id : Str) : Prop :=
  ∃ values fields, lookup (lit "value") page = some (.array values) ∧ .object fields ∈ values ∧
    lookup (lit "id") fields = some (.str id)

structure WellFormed (page : Page) : Prop where
  value : ∃ values, lookup (lit "value") page = some (.array values) ∧
    ∀ entry ∈ values, ∃ fields id, entry = .object fields ∧ lookup (lit "id") fields = some (.str id)
  link : lookup (lit "@odata.nextLink") page = none ∨ lookup (lit "@odata.nextLink") page = some .null ∨
    ∃ url, lookup (lit "@odata.nextLink") page = some (.str url)

/-- The next link of a page. -/
def linkOf (page : Page) : Str :=
  match lookup (lit "@odata.nextLink") page with
  | some (.str url) => url
  | _ => []

open Classical in
/-- Where the chain goes after a URL. It ends, with the empty URL, at a page without a next
link, at one that is not well formed, and where there is no page. -/
noncomputable def after (graph : GraphClient) (url : Str) : Str :=
  match graph.pages.lookup url with
  | some page => if url ≠ [] ∧ WellFormed page then linkOf page else []
  | none => []

/-- A URL that the chain from `first` comes to. -/
def OnChain (graph : GraphClient) (first url : Str) : Prop :=
  url ≠ [] ∧ ∃ count, (after graph)^[count] first = url

/-- The groups are all those that the pages of the chain name, and each of the pages is well
formed. -/
structure Whole (graph : GraphClient) (first : Str) (groups : Finset Str) : Prop where
  formed : ∀ url, OnChain graph first url → ∃ page, graph.pages.lookup url = some page ∧ WellFormed page
  union : ∀ id, id ∈ groups ↔ ∃ url page, OnChain graph first url ∧
    graph.pages.lookup url = some page ∧ Names page id

/-- The lookup ends, with all the groups or with an `AuthError`, and with the groups where the
pages of the chain are well formed. -/
structure FailsClosed (graph : GraphClient) (request : GroupRequest) : Prop where
  ends : ∃ turns result, resolveAzureAdGroups graph request turns = some result
  whole : ∀ turns groups, resolveAzureAdGroups graph request turns = some (.ok groups) →
    Whole graph (firstUrl request) groups
  denied : ∀ turns raised, resolveAzureAdGroups graph request turns = some (.error raised) →
    ∃ message, raised = .authError message
  served : 0 < request.timeoutMicros →
    (∀ url, OnChain graph (firstUrl request) url →
      ∃ page, graph.pages.lookup url = some page ∧ WellFormed page) →
    ∃ turns groups, resolveAzureAdGroups graph request turns = some (.ok groups)

/-! One page. -/
section Page
variable {page : Page} {groups added : Finset Str} {values : List Json} {entry : Json} {id url : Str}
  {raised : Exc}

theorem entryId_some : entryId entry = some id ↔
    ∃ fields, entry = .object fields ∧ lookup (lit "id") fields = some (.str id) := by
  unfold entryId
  split
  · rename_i fields
    split
    · rename_i found named
      simp [named]
    · rename_i other
      simp only [reduceCtorEq, Json.object.injEq, exists_eq_left', false_iff]
      exact other id
  · rename_i other
    simp only [reduceCtorEq, false_iff]
    rintro ⟨fields, same, -⟩
    exact other fields same

theorem addEntries_ok (ok : addEntries groups values = .ok added) :
    (∀ entry ∈ values, ∃ id, entryId entry = some id) ∧
      ∀ id, id ∈ added ↔ id ∈ groups ∨ ∃ entry ∈ values, entryId entry = some id := by
  induction values generalizing groups with
  | nil =>
      cases ok
      simp
  | cons first rest ih =>
      rw [addEntries] at ok
      cases read : entryId first with
      | none =>
          rw [read] at ok
          cases ok
      | some named =>
          rw [read] at ok
          obtain ⟨all, members⟩ := ih ok
          constructor
          · intro entry member
            rcases List.mem_cons.mp member with rfl | later
            · exact ⟨named, read⟩
            · exact all entry later
          · intro id
            rw [members id]
            simp only [Finset.mem_insert, List.exists_mem_cons_iff, read, Option.some.injEq]
            constructor
            · rintro ((rfl | before) | later)
              · exact .inr (.inl rfl)
              · exact .inl before
              · exact .inr (.inr later)
            · rintro (before | rfl | later)
              · exact .inl (.inr before)
              · exact .inl (.inl rfl)
              · exact .inr later

theorem addEntries_total (all : ∀ entry ∈ values, ∃ id, entryId entry = some id) :
    ∃ added, addEntries groups values = .ok added := by
  induction values generalizing groups with
  | nil => exact ⟨groups, rfl⟩
  | cons first rest ih =>
      obtain ⟨id, read⟩ := all first List.mem_cons_self
      rw [addEntries, read]
      exact ih fun entry later => all entry (List.mem_cons_of_mem first later)

theorem addEntries_error (failed : addEntries groups values = .error raised) :
    ∃ message, raised = .authError message := by
  induction values generalizing groups with
  | nil => cases failed
  | cons first rest ih =>
      rw [addEntries] at failed
      cases read : entryId first with
      | none =>
          rw [read] at failed
          cases failed
          exact ⟨_, rfl⟩
      | some id =>
          rw [read] at failed
          exact ih failed

theorem nextUrl_ok (ok : nextUrl page = .ok url) :
    url = linkOf page ∧ (lookup (lit "@odata.nextLink") page = none ∨
      lookup (lit "@odata.nextLink") page = some .null ∨
        ∃ url, lookup (lit "@odata.nextLink") page = some (.str url)) := by
  unfold nextUrl at ok
  unfold linkOf
  split at ok
  · rename_i absent
    cases ok
    simp [absent]
  · rename_i null
    cases ok
    simp [null]
  · rename_i link found
    cases ok
    simp [found]
  · cases ok

theorem nextUrl_error (failed : nextUrl page = .error raised) :
    ∃ message, raised = .authError message := by
  unfold nextUrl at failed
  split at failed <;> cases failed
  exact ⟨_, rfl⟩

theorem readPage_ok (ok : readPage groups page = .ok (url, added)) :
    WellFormed page ∧ url = linkOf page ∧ ∀ id, id ∈ added ↔ id ∈ groups ∨ Names page id := by
  unfold readPage at ok
  split at ok
  · rename_i values found
    obtain ⟨after, entered, ok⟩ := bind_ok.mp ok
    obtain ⟨next, linked, ok⟩ := bind_ok.mp ok
    cases ok
    obtain ⟨all, members⟩ := addEntries_ok entered
    obtain ⟨same, link⟩ := nextUrl_ok linked
    refine ⟨⟨⟨values, found, ?_⟩, link⟩, same, ?_⟩
    · intro entry member
      obtain ⟨id, read⟩ := all entry member
      obtain ⟨fields, rfl, named⟩ := entryId_some.mp read
      exact ⟨fields, id, rfl, named⟩
    · intro id
      rw [members id]
      apply or_congr_right
      constructor
      · rintro ⟨entry, member, read⟩
        obtain ⟨fields, rfl, named⟩ := entryId_some.mp read
        exact ⟨values, fields, found, member, named⟩
      · rintro ⟨others, fields, again, member, named⟩
        cases found.symm.trans again
        exact ⟨_, member, entryId_some.mpr ⟨fields, rfl, named⟩⟩
  · cases ok

theorem readPage_total (formed : WellFormed page) : ∃ read, readPage groups page = .ok read := by
  obtain ⟨⟨values, found, entries⟩, link⟩ := formed
  have all : ∀ entry ∈ values, ∃ id, entryId entry = some id := by
    intro entry member
    obtain ⟨fields, id, rfl, named⟩ := entries entry member
    exact ⟨id, entryId_some.mpr ⟨fields, rfl, named⟩⟩
  obtain ⟨added, entered⟩ := @addEntries_total groups _ all
  have next : ∃ url, nextUrl page = .ok url := by
    unfold nextUrl
    rcases link with absent | null | ⟨url, given⟩
    · exact ⟨[], by rw [absent]⟩
    · exact ⟨[], by rw [null]⟩
    · exact ⟨url, by rw [given]⟩
  obtain ⟨url, linked⟩ := next
  refine ⟨(url, added), ?_⟩
  rw [readPage, found]
  exact bind_ok.mpr ⟨added, entered, bind_ok.mpr ⟨url, linked, rfl⟩⟩

theorem readPage_error (failed : readPage groups page = .error raised) :
    ∃ message, raised = .authError message := by
  unfold readPage at failed
  split at failed
  · rcases bind_error.mp failed with entry | ⟨added, -, failed⟩
    · exact addEntries_error entry
    rcases bind_error.mp failed with link | ⟨url, -, impossible⟩
    · exact nextUrl_error link
    · cases impossible
  · cases failed
    exact ⟨_, rfl⟩
end Page

/-! The chain. -/
section Chain
variable {graph : GraphClient} {first url : Str} {page : Page} {groups added : Finset Str}
  {raised : Exc}

theorem after_page (present : url ≠ []) (found : graph.pages.lookup url = some page)
    (formed : WellFormed page) : after graph url = linkOf page := by
  rw [after, found]
  exact if_pos ⟨present, formed⟩

theorem after_malformed (found : graph.pages.lookup url = some page) (malformed : ¬ WellFormed page) :
    after graph url = [] := by
  rw [after, found]
  exact if_neg fun both => malformed both.2

theorem after_missing (absent : graph.pages.lookup url = none) : after graph url = [] := by
  rw [after, absent]

theorem after_end (graph : GraphClient) : after graph [] = [] := by
  unfold after
  split
  · exact if_neg fun both => both.1 rfl
  · rfl

theorem after_unknown (graph : GraphClient) :
    ∀ url, url ∉ (graph.pages.map Prod.fst).toFinset → after graph url = [] := by
  intro url unknown
  apply after_missing
  rw [List.lookup_eq_none_iff]
  intro pair member
  rw [bne_iff_ne]
  rintro rfl
  exact unknown (List.mem_toFinset.mpr (List.mem_map_of_mem member))

theorem onChain_end : ¬ OnChain graph [] url := by
  rintro ⟨present, count, same⟩
  exact present (same.symm.trans (@iterate_stop _ _ _ _ (after_end graph) 0 _ rfl (Nat.zero_le count)))

theorem onChain_first (present : first ≠ []) : OnChain graph first first := ⟨present, 0, rfl⟩

/-- A chain is its first URL and the chain after it. -/
theorem onChain_iff (present : first ≠ []) :
    OnChain graph first url ↔ url = first ∨ OnChain graph (after graph first) url := by
  constructor
  · rintro ⟨filled, count, same⟩
    cases count with
    | zero => exact .inl same.symm
    | succ count => exact .inr ⟨filled, count, same⟩
  · rintro (rfl | ⟨filled, count, same⟩)
    · exact onChain_first present
    · exact ⟨filled, count + 1, same⟩

/-- A turn that goes on read a well-formed page, and goes where the chain goes. -/
theorem turn_ok {next : Str} (present : url ≠ []) (ok : turn graph url groups = .ok (next, added)) :
    ∃ page, graph.pages.lookup url = some page ∧ WellFormed page ∧ next = after graph url ∧
      ∀ id, id ∈ added ↔ id ∈ groups ∨ Names page id := by
  unfold turn GraphClient.getJson at ok
  cases found : graph.pages.lookup url with
  | none =>
      rw [found] at ok
      cases ok
  | some page =>
      rw [found] at ok
      obtain ⟨formed, rfl, members⟩ := readPage_ok ok
      exact ⟨page, rfl, formed, (after_page present found formed).symm, members⟩

theorem turn_page (found : graph.pages.lookup url = some page) (formed : WellFormed page) :
    ∃ read, turn graph url groups = .ok read := by
  obtain ⟨read, ok⟩ := @readPage_total _ groups formed
  refine ⟨read, ?_⟩
  rw [turn, GraphClient.getJson, found]
  exact ok

theorem turn_missing (absent : graph.pages.lookup url = none) :
    turn graph url groups = .error (timedOut graph.missing) := by
  rw [turn, GraphClient.getJson, absent]

/-- A turn that raises ends the chain. -/
theorem turn_error (failed : turn graph url groups = .error raised) : after graph url = [] ∧
    ((∃ message, raised = .authError message) ∨
      graph.pages.lookup url = none ∧ raised = timedOut graph.missing) := by
  cases found : graph.pages.lookup url with
  | none =>
      rw [turn_missing found] at failed
      cases failed
      exact ⟨after_missing found, .inr ⟨rfl, rfl⟩⟩
  | some page =>
      by_cases formed : WellFormed page
      · obtain ⟨read, ok⟩ := @turn_page _ _ _ groups found formed
        rw [ok] at failed
        cases failed
      · unfold turn GraphClient.getJson at failed
        rw [found] at failed
        exact ⟨after_malformed found formed, .inl (readPage_error failed)⟩

/-! The loop, by induction on its turns. -/
theorem loop_ends {turns : Nat} {result : Except Exc (Finset Str)}
    (ended : loop graph turns url groups = some result) : Ends (after graph) [] url := by
  induction turns generalizing url groups with
  | zero =>
      cases url with
      | nil => exact ⟨0, rfl⟩
      | cons point rest => cases ended
  | succ turns ih =>
      cases url with
      | nil => exact ⟨0, rfl⟩
      | cons point rest =>
          rw [loop] at ended
          cases read : turn graph (point :: rest) groups with
          | error raised => exact ⟨1, (turn_error read).1⟩
          | ok next =>
              obtain ⟨next, added⟩ := next
              rw [read] at ended
              obtain ⟨page, -, -, rfl, -⟩ := turn_ok (by simp) read
              obtain ⟨count, last⟩ := ih ended
              exact ⟨count + 1, last⟩

theorem ends_loop (groups : Finset Str) (ends : Ends (after graph) [] url) :
    ∃ turns result, loop graph turns url groups = some result := by
  obtain ⟨count, last⟩ := ends
  refine ⟨count, ?_⟩
  induction count generalizing url groups with
  | zero =>
      obtain rfl : url = [] := last
      exact ⟨.ok groups, rfl⟩
  | succ count ih =>
      cases url with
      | nil => exact ⟨.ok groups, rfl⟩
      | cons point rest =>
          rw [loop]
          cases read : turn graph (point :: rest) groups with
          | error raised => exact ⟨_, rfl⟩
          | ok next =>
              obtain ⟨next, added⟩ := next
              obtain ⟨page, -, -, rfl, -⟩ := turn_ok (by simp) read
              exact ih added last

theorem loop_ok {turns : Nat} {result : Finset Str}
    (returned : loop graph turns url groups = some (.ok result)) :
    (∀ later, OnChain graph url later →
      ∃ page, graph.pages.lookup later = some page ∧ WellFormed page) ∧
    ∀ id, id ∈ result ↔ id ∈ groups ∨ ∃ later page, OnChain graph url later ∧
      graph.pages.lookup later = some page ∧ Names page id := by
  induction turns generalizing url groups with
  | zero =>
      cases url with
      | nil =>
          cases returned
          simp [onChain_end]
      | cons point rest => cases returned
  | succ turns ih =>
      cases url with
      | nil =>
          cases returned
          simp [onChain_end]
      | cons point rest =>
          rw [loop] at returned
          cases read : turn graph (point :: rest) groups with
          | error raised =>
              rw [read] at returned
              cases returned
          | ok next =>
              obtain ⟨next, added⟩ := next
              rw [read] at returned
              have present : point :: rest ≠ [] := by simp
              obtain ⟨page, found, formed, rfl, members⟩ := turn_ok present read
              obtain ⟨all, union⟩ := ih returned
              constructor
              · intro later on
                rcases (onChain_iff present).mp on with rfl | on
                · exact ⟨page, found, formed⟩
                · exact all later on
              · intro id
                rw [union id, members id]
                constructor
                · rintro ((before | named) | ⟨later, other, on, held, named⟩)
                  · exact .inl before
                  · exact .inr ⟨_, page, onChain_first present, found, named⟩
                  · exact .inr ⟨later, other, (onChain_iff present).mpr (.inr on), held, named⟩
                · rintro (before | ⟨later, other, on, held, named⟩)
                  · exact .inl (.inl before)
                  · rcases (onChain_iff present).mp on with rfl | on
                    · cases found.symm.trans held
                      exact .inl (.inr named)
                    · exact .inr ⟨later, other, on, held, named⟩

/-- What the loop raises is an `AuthError`, or what the client raised where a link led out of the
pages. -/
theorem loop_error {turns : Nat} (failed : loop graph turns url groups = some (.error raised)) :
    (∃ message, raised = .authError message) ∨
      ∃ later, OnChain graph url later ∧ graph.pages.lookup later = none ∧
        raised = timedOut graph.missing := by
  induction turns generalizing url groups with
  | zero => cases url <;> cases failed
  | succ turns ih =>
      cases url with
      | nil => cases failed
      | cons point rest =>
          have present : point :: rest ≠ [] := by simp
          rw [loop] at failed
          cases read : turn graph (point :: rest) groups with
          | error other =>
              rw [read] at failed
              cases failed
              rcases (turn_error read).2 with denied | ⟨absent, same⟩
              · exact .inl denied
              · exact .inr ⟨_, onChain_first present, absent, same⟩
          | ok next =>
              obtain ⟨next, added⟩ := next
              rw [read] at failed
              obtain ⟨page, -, -, rfl, -⟩ := turn_ok present read
              rcases ih failed with denied | ⟨later, on, absent⟩
              · exact .inl denied
              · exact .inr ⟨later, (onChain_iff present).mpr (.inr on), absent⟩

/-- A chain that leads out of the pages makes the loop raise what the client raises there. -/
theorem loop_missing (groups : Finset Str) {later : Str} (on : OnChain graph url later)
    (absent : graph.pages.lookup later = none) :
    ∃ turns, loop graph turns url groups = some (.error (timedOut graph.missing)) := by
  obtain ⟨filled, count, same⟩ := on
  induction count generalizing url groups with
  | zero =>
      obtain rfl : url = later := same
      refine ⟨1, ?_⟩
      cases url with
      | nil => exact absurd rfl filled
      | cons point rest => rw [loop, turn_missing absent]
  | succ count ih =>
      have leads : after graph url ≠ [] := by
        intro ended
        apply filled
        rw [← same, Function.iterate_succ_apply, ended]
        exact @iterate_stop _ _ _ _ (after_end graph) 0 _ rfl (Nat.zero_le count)
      cases url with
      | nil => exact absurd (after_end graph) leads
      | cons point rest =>
          cases read : turn graph (point :: rest) groups with
          | error raised => exact absurd (turn_error read).1 leads
          | ok next =>
              obtain ⟨next, added⟩ := next
              obtain ⟨page, -, -, rfl, -⟩ := turn_ok (by simp) read
              obtain ⟨turns, raised⟩ := ih added same
              refine ⟨turns + 1, ?_⟩
              rw [loop, read]
              exact raised

/-- With well-formed pages only, an ending loop returns. -/
theorem loop_served {turns : Nat} {result : Except Exc (Finset Str)}
    (formed : ∀ later, OnChain graph url later →
      ∃ page, graph.pages.lookup later = some page ∧ WellFormed page)
    (ended : loop graph turns url groups = some result) : ∃ groups, result = .ok groups := by
  induction turns generalizing url groups with
  | zero =>
      cases url <;> cases ended
      exact ⟨_, rfl⟩
  | succ turns ih =>
      cases url with
      | nil =>
          cases ended
          exact ⟨_, rfl⟩
      | cons point rest =>
          have present : point :: rest ≠ [] := by simp
          obtain ⟨page, found, sound⟩ := formed _ (onChain_first present)
          obtain ⟨⟨next, added⟩, read⟩ := @turn_page _ _ _ groups found sound
          rw [loop, read] at ended
          obtain ⟨-, -, -, rfl, -⟩ := turn_ok present read
          exact ih (fun later on => formed later ((onChain_iff present).mpr (.inr on))) ended
end Chain

theorem firstUrl_present (request : GroupRequest) : firstUrl request ≠ [] := by
  rw [firstUrl, show lit "/users/" = 47 :: lit "users/" by decide]
  simp

/-- No page leads back to an earlier one, and where a link leads out of the pages the client
raises what becomes an `AuthError`. -/
def Straight (graph : GraphClient) (first : Str) : Prop :=
  Acyclic (after graph) [] first ∧
    ∀ url, OnChain graph first url → graph.pages.lookup url = none →
      ∃ message, timedOut graph.missing = .authError message

theorem FailsClosed.straight {graph : GraphClient} {request : GroupRequest}
    (closed : FailsClosed graph request) (running : ¬ request.timeoutMicros ≤ 0) :
    Straight graph (firstUrl request) := by
  have resolved : ∀ turns, resolveAzureAdGroups graph request turns =
      loop graph turns (firstUrl request) ∅ := fun turns => if_neg running
  constructor
  · obtain ⟨turns, result, ended⟩ := closed.ends
    rw [resolved] at ended
    exact Ends.acyclic (after_end graph) (loop_ends ended)
  · intro url on absent
    obtain ⟨turns, raised⟩ := loop_missing ∅ on absent
    exact closed.denied turns _ ((resolved turns).trans raised)

theorem Straight.failsClosed {graph : GraphClient} {request : GroupRequest}
    (straight : Straight graph (firstUrl request)) (running : ¬ request.timeoutMicros ≤ 0) :
    FailsClosed graph request := by
  have resolved : ∀ turns, resolveAzureAdGroups graph request turns =
      loop graph turns (firstUrl request) ∅ := fun turns => if_neg running
  obtain ⟨turns, result, ended⟩ :=
    ends_loop ∅ (Acyclic.ends _ (after_unknown graph) straight.1)
  constructor
  · exact ⟨turns, result, (resolved turns).trans ended⟩
  · intro turns groups returned
    rw [resolved] at returned
    obtain ⟨formed, union⟩ := loop_ok returned
    refine ⟨formed, fun id => ?_⟩
    simpa using union id
  · intro turns raised failed
    rw [resolved] at failed
    rcases loop_error failed with denied | ⟨url, on, absent, rfl⟩
    · exact denied
    · exact straight.2 url on absent
  · intro _ formed
    obtain ⟨groups, rfl⟩ := loop_served formed ended
    exact ⟨turns, groups, (resolved turns).trans ended⟩

/-- The lookup always ends and never gives a part of the groups, exactly where the chain of the
pages does not come back to an earlier one. -/
theorem groups_fail_closed_iff (graph : GraphClient) (request : GroupRequest) :
    FailsClosed graph request ↔
      request.timeoutMicros ≤ 0 ∨ Straight graph (firstUrl request) := by
  by_cases expired : request.timeoutMicros ≤ 0
  · have resolved : ∀ turns, resolveAzureAdGroups graph request turns =
        some (.error (.authError "Graph timeout must be positive")) := fun turns => if_pos expired
    have closed : FailsClosed graph request := by
      constructor
      · exact ⟨0, _, resolved 0⟩
      · intro turns groups returned
        cases (resolved turns).symm.trans returned
      · intro turns raised failed
        cases (resolved turns).symm.trans failed
        exact ⟨_, rfl⟩
      · intro positive
        omega
    exact iff_of_true closed (.inl expired)
  · constructor
    · exact fun closed => .inr (closed.straight expired)
    · rintro (impossible | straight)
      · exact absurd impossible expired
      · exact straight.failsClosed expired

/-! Two pages, the second of which leads back to the first. -/
def alice : GroupRequest := ⟨lit "alice", false, 5000000⟩

def groupPage (id link : String) : Page :=
  [(lit "value", .array [.object [(lit "id", .str (lit id))]]), (lit "@odata.nextLink", .str (lit link))]

def roundGraph : GraphClient where
  pages := [(firstUrl alice, groupPage "one" "/next"),
    (lit "/next", groupPage "two" "/users/alice/memberOf?$select=id")]
  missing := .keyError

theorem groupPage_formed (id link : String) : WellFormed (groupPage id link) where
  value := by
    refine ⟨[.object [(lit "id", .str (lit id))]], rfl, ?_⟩
    intro entry member
    exact ⟨_, lit id, List.mem_singleton.mp member, by simp [lookup]⟩
  link := .inr (.inr ⟨lit link, rfl⟩)

theorem roundGraph_after : after roundGraph (firstUrl alice) = lit "/next" ∧
    after roundGraph (lit "/next") = firstUrl alice := by
  constructor
  · rw [@after_page _ _ (groupPage "one" "/next") (firstUrl_present alice) (by simp [roundGraph])
      (groupPage_formed "one" "/next")]
    decide +kernel
  · have found : roundGraph.pages.lookup (lit "/next") =
        some (groupPage "two" "/users/alice/memberOf?$select=id") := by
      have apart : (lit "/next" == firstUrl alice) = false := by decide +kernel
      simp [roundGraph, List.lookup_cons, apart]
    rw [after_page (by decide) found (groupPage_formed _ _)]
    decide +kernel

/-- The loop goes round and does not end. -/
theorem groups_endless : (∀ turns, resolveAzureAdGroups roundGraph alice turns = none) ∧
    ¬ FailsClosed roundGraph alice := by
  have endless : ∀ turns, resolveAzureAdGroups roundGraph alice turns = none := by
    intro turns
    cases ended : resolveAzureAdGroups roundGraph alice turns with
    | none => rfl
    | some result =>
        have resolved : resolveAzureAdGroups roundGraph alice turns =
            loop roundGraph turns (firstUrl alice) ∅ := if_neg (by decide)
        have acyclic := Ends.acyclic (after_end roundGraph) (loop_ends (resolved.symm.trans ended))
        have round : (after roundGraph)^[2] (firstUrl alice) = firstUrl alice := by
          rw [Function.iterate_succ_apply, Function.iterate_one, roundGraph_after.1,
            roundGraph_after.2]
        exact absurd (acyclic 0 2 (by decide) round.symm) (firstUrl_present alice)
  refine ⟨endless, fun closed => ?_⟩
  obtain ⟨turns, result, ended⟩ := closed.ends
  rw [endless turns] at ended
  cases ended

end VibeConnect.AzureGroups
