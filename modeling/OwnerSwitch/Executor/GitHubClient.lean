/-
Module: OwnerSwitch.Executor.GitHubClient
Layer: Executor
Purpose: The live GitHub connector between its awaits: the names it accepts in a path, what it makes of a pull
  request read, the merge request it sends, and how each answer is classified.
Imports: Shared.ToolCall
Trusted boundary: the redaction of the ledger; the transport, as far as `boundedRequest` reports it
Main exports: ConnectorCallError, HttpAnswer, assertSafeRepoName, fetchPullRequest, MergePut, putAnswered
Open obligations: none
-/
import OwnerSwitch.Shared.ToolCall

namespace OwnerSwitch

/-! ### Outcomes -/

inductive ConnectorOutcome where
  | notPerformed | unknown
  deriving DecidableEq, Repr

def ConnectorOutcome.text : ConnectorOutcome → JsString
  | .notPerformed => js "not-performed"
  | .unknown => js "unknown"

structure ConnectorCallError where
  message : JsString
  outcome : ConnectorOutcome
  deriving DecidableEq, Repr

inductive MergeAttribution where
  | thisDispatch | mergedStateOnly
  deriving DecidableEq, Repr

structure MergeResult where
  merged : Bool
  sha : JsString
  message : JsString
  attribution : MergeAttribution
  deriving DecidableEq, Repr

/-- How one exchange of `boundedRequest` ends; a body past the bound is absent. -/
inductive HttpAnswer where
  | failed (timedOut : Bool)
  | response (status : Nat) (rateLimited : Bool) (bodyText : Option JsString)
  deriving DecidableEq, Repr

/-- `fixedTransportMessage` -/
def fixedTransportMessage (timedOut : Bool) : JsString :=
  if timedOut then js "the request timed out" else js "a network-level failure occurred"

/-! ### Names -/

/-- Letters and digits of ASCII. -/
def isAlphanumeric (u : UInt16) : Bool :=
  (0x41 ≤ u && u ≤ 0x5A) || (0x61 ≤ u && u ≤ 0x7A) || (0x30 ≤ u && u ≤ 0x39)

/-- `/^[A-Za-z0-9-]+$/`, at most 39 characters. -/
def isSafeOwner (value : JsString) : Bool :=
  !value.isEmpty && value.length ≤ 39 && value.all fun u => isAlphanumeric u || u = 0x2D

/-- `/^[A-Za-z0-9_.-]+$/`, at most 100 characters, and no dot segment. -/
def isSafeRepoName (value : JsString) : Bool :=
  !value.isEmpty && value.length ≤ 100 && value ≠ js "." && value ≠ js ".." &&
    value.all fun u => isAlphanumeric u || u = 0x5F || u = 0x2E || u = 0x2D

def assertSafeOwner (value : JsString) : Except JsString Unit :=
  if isSafeOwner value then .ok () else .error (js "owner is not a valid GitHub owner name")

def assertSafeRepoName (value : JsString) : Except JsString Unit :=
  if isSafeRepoName value then .ok () else .error (js "repository name is not a valid GitHub repository name")

def assertSafePullNumber (value : Nat) : Except JsString Unit :=
  if 0 < value && (value : Int) ≤ Json.maxSafeInteger then .ok ()
  else .error (js "pullNumber must be a safe positive integer")

/-- `encodeURIComponent`, on the octets of a text. -/
def encodeURIComponent (text : JsString) : JsString :=
  (Utf8.encode text).flatMap fun b =>
    let u := UInt16.ofNat b.toNat
    let upper (d : Nat) : UInt16 := if d < 10 then UInt16.ofNat (0x30 + d) else UInt16.ofNat (0x41 + (d - 10))
    if isAlphanumeric u || [0x2D, 0x5F, 0x2E, 0x21, 0x7E, 0x2A, 0x27, 0x28, 0x29].contains u then [u]
    else [0x25, upper (b.toNat / 16), upper (b.toNat % 16)]

/-! ### The client -/

/-- The options of `createGitHubMergeClient` its texts depend on. -/
structure GitHubMergeClient where
  baseUrl : JsString
  redact : JsString → JsString

/-- What a read of a pull request says. -/
structure PullRequest where
  merged : Bool
  mergeCommitSha : Option JsString
  headSha : Option JsString
  baseRef : Option JsString
  deriving DecidableEq, Repr

/-- `PUT {prUrl}/merge`, as it is sent. -/
structure MergePut where
  url : JsString
  token : JsString
  body : JsString
  deriving DecidableEq, Repr

/-- What the client makes of the answer to its merge request. -/
inductive PutVerdict where
  | merged (result : MergeResult)
  | rejected (error : ConnectorCallError)
  /-- one verification read follows -/
  | ambiguous (cause : JsString)

/-- `DOCUMENTED_REJECTION_STATUSES` -/
def documentedRejectionStatuses : List Nat :=
  [401, 403, 404, 405, 409, 422, 429]

/-- `MAX_ERROR_MESSAGE_CHARS` -/
def maxErrorMessageChars : Nat := 300

namespace GitHubMergeClient

variable (c : GitHubMergeClient)

def notPerformed (message : JsString) : ConnectorCallError :=
  ⟨c.redact message, .notPerformed⟩

def unknownOutcome (message : JsString) : ConnectorCallError :=
  ⟨c.redact message, .unknown⟩

def prPath (owner repo : JsString) (pullNumber : Nat) : Except JsString JsString := do
  assertSafeOwner owner
  assertSafeRepoName repo
  assertSafePullNumber pullNumber
  .ok (c.baseUrl ++ js "/repos/" ++ encodeURIComponent owner ++ js "/" ++ encodeURIComponent repo ++ js "/pulls/"
    ++ Json.natText pullNumber)

/-- `fetchPullRequest`, from the answer on. -/
def fetchPullRequest : HttpAnswer → Except JsString PullRequest
  | .failed timedOut => .error (js "the pull request read failed: " ++ fixedTransportMessage timedOut)
  | .response status _ bodyText =>
      if status ≠ 200 then .error (js "the pull request read answered HTTP " ++ Json.natText status)
      else
        match bodyText with
        | none => .error (js "the pull request read exceeded the response size bound")
        | some text =>
            match Json.parse text with
            | none => .error (js "the pull request read returned an unreadable body")
            | some body =>
                .ok
                  { merged := body.get (js "merged") |>.any fun v => v.bool? = some true
                    mergeCommitSha := (body.get (js "merge_commit_sha")).bind Json.str?
                    headSha := (body.get (js "head")).bind fun head => (head.get (js "sha")).bind Json.str?
                    baseRef := (body.get (js "base")).bind fun base => (base.get (js "ref")).bind Json.str? }

/-- `githubErrorMessage` -/
def githubErrorMessage (bodyText : Option JsString) : JsString :=
  match (bodyText.bind Json.parse).bind fun parsed => (parsed.get (js "message")).bind Json.str? with
  | some message => (c.redact message).take maxErrorMessageChars
  | none => []

/-- `rejectionDetail` -/
def rejectionDetail (args : MergePrArgs) (status : Nat) (rateLimited : Bool) (bodyText : Option JsString) : JsString :=
  let message := c.githubErrorMessage bodyText
  let quoted := if message.isEmpty then [] else js ": " ++ message
  let suffix := js " The merge was NOT performed by this request."
  let target := args.owner ++ js "/" ++ args.repo
  let pull := target ++ js "#" ++ Json.natText args.pullNumber
  if (status = 403 || status = 429) && rateLimited then
    js "GitHub rate-limited the executor's credential (HTTP " ++ Json.natText status ++ js ")" ++ quoted ++ js "." ++ suffix
  else
    match status with
    | 401 => js "GitHub rejected the executor's credential (HTTP 401)" ++ quoted ++ js "." ++ suffix
    | 403 =>
        js "GitHub forbade the merge (HTTP 403)" ++ quoted ++ js " — the installation token has contents:write on "
          ++ target ++ js ", so look for repository rules or organization policy." ++ suffix
    | 404 =>
        js "GitHub answered 404 for " ++ pull
          ++ js " — the pull request does not exist, or the App's installation cannot see that repository (GitHub serves 404, not 403, for resources a credential cannot see)."
          ++ suffix
    | 405 =>
        js "GitHub reports the pull request is not mergeable (HTTP 405)" ++ quoted
          ++ js " — draft, failing required checks, branch protection, or already merged." ++ suffix
    | 409 =>
        js "the head of " ++ pull ++ js " no longer matches the approved expectedHeadSha (HTTP 409)" ++ quoted
          ++ js " — the branch moved after the owner's approval, and merging it now would merge commits the owner never saw. Re-approve against the new head."
          ++ suffix
    | 422 => js "GitHub refused the merge request as invalid (HTTP 422)" ++ quoted ++ js "." ++ suffix
    | 429 => js "GitHub rate-limited the executor's credential (HTTP 429)" ++ quoted ++ js "." ++ suffix
    | status => js "GitHub refused the merge (HTTP " ++ Json.natText status ++ js ")" ++ quoted ++ js "." ++ suffix

/-! ### `mergePullRequest`, await by await -/

/-- Up to the token: a name that cannot form a URL is not dispatched. -/
def mergePath (args : MergePrArgs) : Except ConnectorCallError JsString :=
  match c.prPath args.owner args.repo args.pullNumber with
  | .error e => .error (c.notPerformed (js "the merge was not dispatched: " ++ e))
  | .ok prUrl =>
      if args.expectedHeadSha.isEmpty then
        .error (c.notPerformed (js "the merge was not dispatched: expectedHeadSha is mandatory — every merge is pinned to the head the owner approved"))
      else .ok prUrl

/-- No token, nothing dispatched. -/
def mergeToken : Except JsString JsString → Except ConnectorCallError JsString
  | .error e => .error (c.notPerformed (js "the merge was not dispatched — no installation token: " ++ e))
  | .ok token => .ok token

/-- The base the owner approved is still the base. -/
def checkBase (args : MergePrArgs) (answer : HttpAnswer) : Except ConnectorCallError Unit :=
  match fetchPullRequest answer with
  | .error e =>
      .error (c.notPerformed
        (js "the merge was not dispatched — the pre-dispatch base check could not read the pull request (" ++ e ++ js ")"))
  | .ok current =>
      match current.baseRef with
      | none =>
          .error (c.notPerformed (js "the merge was not dispatched — GitHub's pull request response carried no usable base ref, so the approved merge destination cannot be verified"))
      | some baseRef =>
          if baseRef = args.expectedBaseRef then .ok ()
          else
            .error (c.notPerformed
              (js "the merge was not dispatched — the pull request's base branch is now \"" ++ baseRef
                ++ js "\", but the owner approved a merge into \"" ++ args.expectedBaseRef
                ++ js "\". The PR was retargeted after approval; re-approve against the new destination."))

/-- A `beforeDispatch` that throws. -/
def notDispatched (message : JsString) : ConnectorCallError :=
  c.notPerformed (js "the merge was not dispatched — " ++ message)

/-- The text of a method in the merge request. -/
def methodText : MergeMethod → JsString
  | .merge => js "merge"
  | .squash => js "squash"
  | .rebase => js "rebase"

/-- The merge request. -/
def mergePut (args : MergePrArgs) (prUrl token : JsString) : MergePut where
  url := prUrl ++ js "/merge"
  token := token
  body := Json.stringify (.obj (Json.present
    [(js "merge_method", args.mergeMethod.map fun method => .str (methodText method)),
      (js "sha", some (.str args.expectedHeadSha))]))

/-- The answer to the merge request: only what GitHub documents as a rejection is one. -/
def putAnswered (args : MergePrArgs) : HttpAnswer → PutVerdict
  | .failed timedOut =>
      .ambiguous (js "the merge request failed on the wire (" ++ fixedTransportMessage timedOut ++ js ")")
  | .response status rateLimited bodyText =>
      if status = 200 then
        let body := ((bodyText.bind Json.parse).getD (.obj []))
        if (body.get (js "merged")).bind Json.bool? ≠ some true then
          .ambiguous (js "GitHub answered HTTP 200 without confirming the merge")
        else
          .merged
            { merged := true
              sha := (((body.get (js "sha")).bind Json.str?).map c.redact).getD []
              message := (((body.get (js "message")).bind Json.str?).map fun text => (c.redact text).take 300).getD []
              attribution := .thisDispatch }
      else if documentedRejectionStatuses.contains status then
        .rejected (c.notPerformed (c.rejectionDetail args status rateLimited bodyText))
      else .ambiguous (js "GitHub answered an unrecognized HTTP " ++ Json.natText status)

/-- `verifyAfterAmbiguousDispatch`, from the answer of its read on. -/
def verifyAfterAmbiguousDispatch (args : MergePrArgs) (cause : JsString) (answer : HttpAnswer) :
    Except ConnectorCallError MergeResult :=
  let checkYourself := js "Check " ++ args.owner ++ js "/" ++ args.repo ++ js "#" ++ Json.natText args.pullNumber
    ++ js " directly before re-approving — a re-approved merge could run the action twice."
  match fetchPullRequest answer with
  | .error e =>
      .error (c.unknownOutcome
        (cause ++ js "; the post-dispatch verification read also failed (" ++ e ++ js "), so the outcome is UNKNOWN. "
          ++ checkYourself))
  | .ok pr =>
      if pr.merged then
        .ok
          { merged := true
            sha := (pr.mergeCommitSha.map c.redact).getD []
            message := c.redact
              (js "the pull request is merged — " ++ cause
                ++ js ", and a post-dispatch verification read confirms the pull request's MERGED STATE. Note precisely what that proves: the PR is merged; whether THIS dispatch performed the merge cannot be determined.")
            attribution := .mergedStateOnly }
      else
        .error (c.unknownOutcome
          (cause ++ js "; a post-dispatch verification read shows the pull request NOT merged as of that read — but a request that died on the wire can still complete after it, so this is a snapshot, not proof. "
            ++ checkYourself))

/-! ### `getPullRequestHead` -/

/-- A full commit id in lower or upper case, and a base. -/
def pullRequestHead (owner repo : JsString) (pullNumber : Nat) (answer : HttpAnswer) :
    Except JsString (JsString × JsString) :=
  match fetchPullRequest answer with
  | .error e => .error e
  | .ok pr =>
      if pr.merged then
        .error (owner ++ js "/" ++ repo ++ js "#" ++ Json.natText pullNumber ++ js " is already merged — nothing to pin")
      else
        match pr.headSha.filter isCommitId with
        | none => .error (js "GitHub's pull request response carried no usable head sha")
        | some headSha =>
            match pr.baseRef.filter fun baseRef => !baseRef.isEmpty with
            | none => .error (js "GitHub's pull request response carried no usable base ref")
            | some baseRef => .ok (c.redact headSha, c.redact baseRef)

end GitHubMergeClient

end OwnerSwitch
