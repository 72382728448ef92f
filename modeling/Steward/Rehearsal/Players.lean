import Steward.Rehearsal.Stage

/-!
# Players

The tools, the supervisor and the gateways of a rehearsal.
-/

namespace Steward.Rehearsal

/-! ## Tools -/

/-- What a tool does that has no script left. -/
def ToolReply.silent : ToolReply := ⟨[], ⟨ByteArray.empty, ByteArray.empty, some 0⟩⟩

def toolbox : Toolbox Stage := fun program arguments => ExceptT.mk fun scene =>
  match scene.agent.tools.lookup program with
  | none => reply (.error .notFound) scene false
  | some .forbidden => reply (.error .permissionDenied) scene false
  | some (.replies script) =>
    let played := (replyAt script (scene.agent.count program)).getD ToolReply.silent
    let stage := (scene.agent.counted program).noted ((program :: arguments).map Json.text)
    reply (.ok played.ending) ⟨played.changes.foldl FileChange.apply scene.files, stage⟩ false

/-! ## The supervisor -/

/-- The scene with another state of the supervisor. -/
def setSupervisor (scene : Scene) (step : SupervisorScript → SupervisorScript) : Scene :=
  { scene with agent := { scene.agent with supervisor := step scene.agent.supervisor } }

def refusal (request : String) : ToolError :=
  .failed "fakectl" [request] (some 1) ("fakectl: " ++ request ++ " refused")

/-- Plays a request: it is noted, and then fails or is answered. -/
def request (name : String) (call : List Json)
    (answer : SupervisorScript → Except ToolError β × SupervisorScript) :
    Call Scene ToolError β :=
  ExceptT.mk fun scene =>
    let scene := note scene (.text name :: call)
    let (result, next) := if scene.agent.supervisor.failing.contains name then
        (.error (refusal name), scene.agent.supervisor)
      else answer scene.agent.supervisor
    reply result (setSupervisor scene (fun _ => next)) false

namespace SupervisorScript

/-- One step closer to what is pending. -/
def advance (script : SupervisorScript) : SupervisorScript :=
  let script := match script.pendingStart with
    | none => script
    | some 0 => { script with running := true, pendingStart := none }
    | some (n + 1) => { script with pendingStart := some n }
  match script.pendingStop with
  | none => script
  | some 0 =>
    { script with
      running := false
      pendingStop := none
      registered := script.registered && !script.stopUnloads }
  | some (n + 1) => { script with pendingStop := some n }

/-- What the supervisor says about its service. -/
def liveness (script : SupervisorScript) : Liveness :=
  if script.running then .running script.pid
  else if script.registered then .loaded
  else .notLoaded

/-- The answer to a query, and what the query changes. -/
def answerQuery (script : SupervisorScript) : Except ToolError Liveness × SupervisorScript :=
  match script.failingQueries with
  | n + 1 => (.error (refusal "query"), { script with failingQueries := n })
  | 0 => (.ok script.advance.liveness, script.advance)

end SupervisorScript

/-- Plays a query.  The token may be fired in it. -/
def playQuery (name : ServiceName) : Call Scene ToolError Liveness := ExceptT.mk fun scene =>
  let due := scene.agent.supervisor.firesIn
  let scene := setSupervisor scene (fun script =>
    { script with firesIn := due.map (fun n => n - 1) })
  let played := (request "query" [name.text] SupervisorScript.answerQuery).run scene
  { played with fired := due.any (fun n => n ≤ 1) }

/-- The supervisor of the stage, whose descriptors lie in a directory. -/
def supervisor (dialect : Dialect) (directory : Path) : Supervisor Stage where
  dialect := dialect
  descriptorPath name := directory.join (name.text ++ ".service")
  register name descriptor := ExceptT.mk fun scene =>
    let files := if scene.agent.supervisor.removesDescriptor then
        (scene.files.remove descriptor).toOption.getD scene.files
      else scene.files
    (request "register" [name.text, descriptor.record]
      (fun script => (.ok (), { script with registered := true }))).run
      { scene with files := files }
  deregister name := request "deregister" [name.text] (fun script =>
    (.ok script.registered, { script with registered := false, running := false }))
  start name := request "start" [name.text] (fun script =>
    if !script.registered then (.error (refusal "start"), script)
    else if script.neverStart then (.ok (), script)
    else (.ok (), { script with pendingStart := some script.startDelay }))
  stop name := request "stop" [name.text] (fun script =>
    if script.neverStop then (.ok (), script)
    else (.ok (), { script with pendingStop := some script.stopDelay }))
  query name := playQuery name

/-! ## Gateways -/

/-- What a gateway does that has no script left. -/
def GatewayReply.silent : GatewayReply := ⟨false, none, false, .file, .ok ⟨"", ""⟩⟩

/-- The files after a gateway has been at a binary. -/
def GatewayReply.touch (played : GatewayReply) (binary : Path) (files : FileSystem) :
    FileSystem :=
  let files := match played.adds with
    | some text => FileChange.apply files ⟨binary, text.toUTF8, true⟩
    | none => files
  if played.removesBinary then (files.remove binary).toOption.getD files else files

/-- The files after a packager has been at an archive. -/
def GatewayReply.fill (played : GatewayReply) (archive : Path) (files : FileSystem) :
    FileSystem :=
  match played.archive with
  | .file => (files.writeText archive "archive").toOption.getD files
  | .directory => (files.makeDirectory archive).toOption.getD files
  | .nothing => files

/-- Plays a request to a gateway, which may change the files. -/
def ask (name : String) (call : FileSystem → List Json)
    (effect : GatewayReply → FileSystem → FileSystem) : Call Scene ToolError ToolOutput :=
  ExceptT.mk fun scene =>
    let player := "gateway " ++ name
    let script := (scene.agent.gateways.lookup name).getD []
    let played := (replyAt script (scene.agent.count player)).getD GatewayReply.silent
    let stage := (scene.agent.counted player).noted (.text name :: call scene.files)
    reply played.result ⟨effect played scene.files, stage⟩ played.fires

/-- Whether an archive is there, as it is noted. -/
def archiveNote (archive : Path) (files : FileSystem) : Json :=
  .record [("archive_existed", files.doesExist archive)]

def signer : Signer Stage where
  sign binary identity options :=
    ask "sign" (fun _ => [binary.record, identity, options.record])
      (fun played => played.touch binary)
  verify binary := ask "verify" (fun _ => [binary.record]) (fun played => played.touch binary)

def packager : Packager Stage := fun binary archive => do
  let _ ← ask "package" (fun files => [binary.record, archive.record, archiveNote archive files])
    (fun played files => played.fill archive (played.touch binary files))

def notary : Notary Stage where
  submit archive bundleId credential :=
    ask "submit"
      (fun files => [archive.record, bundleId, credential.record, archiveNote archive files])
      (fun _ files => files)
  query trackingId credential :=
    ask "query" (fun _ => [trackingId.text, credential.record]) (fun _ files => files)
  staple binary := ask "staple" (fun _ => [binary.record]) (fun played => played.touch binary)

end Steward.Rehearsal
