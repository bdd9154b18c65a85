import Dashboard.Host.Adapter

/-!
# The headless adapter

An adapter for environments without a renderer: mounting only records the attachment. Bundles count
as fetched lazily and settle when they are polled for the second time. An instance knows nothing but
its plugin: it is attached as long as some unit of the plugin is.
-/

namespace Dashboard

structure Headless where
  stage : Stage
  /-- The mounts in flight that have been polled once. -/
  fetched : List Nat
  nextKey : Nat
  deriving DecidableEq, Inhabited

namespace Headless

def empty : Headless := ⟨.empty, [], 0⟩

def attach (h : Headless) (id : PluginId) : Headless × MountResult :=
  ({ h with stage := h.stage.attach id }, .ok ⟨id, true⟩)

/-- Starts to mount a plugin: a bundle is fetched, anything else is attached at once. -/
def mount (h : Headless) (ctx : MountContext) : Headless × MountRequest :=
  let h := { h with stage := h.stage.request ctx.plugin }
  match ctx.mount with
  | .bundle _ => ({ h with nextKey := h.nextKey + 1 }, .pending ⟨ctx.plugin, h.nextKey⟩)
  | _ => let (h, result) := h.attach ctx.plugin; (h, .ready result)

/-- A bundle yields at first and is attached the next time. -/
def poll (h : Headless) (t : Ticket) : Headless × Progress :=
  if h.fetched.contains t.key then
    let (h, result) := { h with fetched := h.fetched.erase t.key }.attach t.plugin
    (h, .settled result)
  else ({ h with fetched := t.key :: h.fetched }, .yielded)

def cancel (h : Headless) (t : Ticket) : Headless := { h with fetched := h.fetched.erase t.key }

/-- Detaches a unit of the instance's plugin, if one is attached. -/
def unmount (h : Headless) (i : Instance) : Headless × Instance :=
  if h.stage.attached.contains i.plugin then
    ({ h with stage := h.stage.detach i.plugin }, { i with live := false })
  else (h, { i with live := false })

instance : Adapter Headless where
  name := "headless"
  mount := mount
  poll := poll
  cancel := cancel
  unmount := unmount
  isAttached h i := h.stage.attached.contains i.plugin
  stage := stage

end Headless

end Dashboard
