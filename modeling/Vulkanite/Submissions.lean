/-
# The command buffer of a device

A logical device has one command buffer, and all contexts on it share that: launches, the
builds of accels, copies and new images each begin it, end it, submit it and wait.  What
the functions do in between is read off the source.

A `VK_CHECK` that fails is assumed to throw, as the comment of `checkError` says.  Its `throw`
is commented out, and what is there in its place throws under Windows, but raises a signal
elsewhere; if that is handled and returns, the function goes on after the call that failed.

`Context::launch` and `Compute::launch` make descriptors while they record, and every
function can fail to wait.  An exception there leaves the command buffer recording or
pending, and the next function that begins it misuses it, of whatever context it is.
Nothing else does, in any sequence of calls (`submissions_safe_iff`).
-/
import Vulkanite.Lib.CommandBuffers

namespace Vulkanite

open CommandBuffers

/-- The functions that use the command buffer of their device. -/
inductive Submitter where
  | bufferCopy
  | image
  | contextLaunch
  | computeLaunch
  | trianglesBuild
  | userGeomBuild (numGeoms : ℕ)
  | instanceBuild
  deriving DecidableEq, Repr

namespace Submitter

/-- From `vkBeginCommandBuffer` to `vkQueueWaitIdle`, with these commands in between. -/
def submission (recorded : List Cmd) : List Cmd := .begin :: (recorded ++ [.finish, .submit, .wait])

/-- `Context::rebuildDescriptors`: the pool, the layout and the set. -/
def rebuildDescriptors : List Cmd := [.call, .call, .call]

/-- `Context::launch` and `Compute::launch` make the same calls, with a barrier at the end. -/
def launch : List Cmd :=
  submission (rebuildDescriptors ++ List.replicate 4 .record) ++ submission [.record]

/-- What each function does.  A function that finds descriptors in place succeeds in making
them; `InstanceAccel::build` is the part behind the test for accels. -/
def commands : Submitter → List Cmd
  | .bufferCopy => submission [.record]
  | .image =>
    [.call,                       -- toVulkan
      .call,                      -- vkCreateImage
      .call,                      -- allocateMemory
      .call,                      -- vkMapMemory
      .call] ++                   -- vkBindImageMemory
    submission [.record] ++
    [.call]                       -- vkCreateImageView
  | .contextLaunch | .computeLaunch => launch
  | .trianglesBuild =>
    [.call, .call] ++             -- scratchBuffer, asBuffer
    submission [.record]
  | .userGeomBuild numGeoms =>
    [.call, .call] ++             -- geomDataBuffer, boundsBuffer
    (List.replicate numGeoms launch).flatten ++
    [.call, .call] ++             -- scratchBuffer, asBuffer
    submission [.record]
  | .instanceBuild =>
    [.call, .call, .call, .call,  -- asHandlesBuffer, instanceBuffer, scratchBuffer, asBuffer
      .call] ++                   -- vkCreateAccelerationStructure
    submission [.record]

/-- Commands are checked one after the other. -/
theorem check_append {p : Phase} {cs cs' : List Cmd} (h : check p cs) :
    check p (cs ++ cs') = check .outside cs' := by
  induction cs generalizing p with
  | nil =>
    obtain rfl : p = .outside := of_decide_eq_true h
    rfl
  | cons c cs ih =>
    obtain ⟨p', hp', hcs⟩ := (Option.any_eq_true _ _).mp h
    rw [List.cons_append, check, hp', Option.any_some, ih hcs]

/-- All functions make the calls in the right order. -/
theorem check_commands (f : Submitter) : check .outside f.commands := by
  cases f with
  | userGeomBuild numGeoms =>
    have hkernels : check .outside (List.replicate numGeoms launch).flatten := by
      induction numGeoms with
      | zero => rfl
      | succ n ih => rwa [List.replicate_succ, List.flatten_cons, check_append (by decide)]
    simp only [commands, List.append_assoc]
    rw [check_append (by decide), check_append hkernels]
    decide
  | _ => decide

end Submitter

/-- A call of such a function on a device, and which of its commands would succeed. -/
structure SubmitterCall (D : Type*) where
  device : D
  submitter : Submitter
  results : List Bool
  length_results : results.length = submitter.commands.length

namespace SubmitterCall

variable {D : Type*} [DecidableEq D]

def attempt (x : SubmitterCall D) : D × Attempt := (x.device, x.submitter.commands.zip x.results)

omit [DecidableEq D] in
/-- What is submitted by one call passes the check. -/
theorem check_attempt (x : SubmitterCall D) : check .outside (x.attempt.2.map Prod.fst) := by
  rw [attempt, List.map_fst_zip x.length_results.ge]
  exact x.submitter.check_commands

/-- The call throws while it makes descriptors, or when it waits, and the later one begins
the command buffer of the same device. -/
def Collides (x y : SubmitterCall D) : Prop := Collide x.attempt y.attempt

end SubmitterCall

/-- Making descriptors fails in a launch, and a build on the same device begins the command
buffer while it is recording. -/
example : runs [((), Submitter.contextLaunch.commands.zip
      ([true, false] ++ List.replicate 13 true)),
    ((), Submitter.trianglesBuild.commands.zip (List.replicate 7 true))]
    (fun _ => .initial) = none := by
  decide +kernel

end Vulkanite
