import Reftest.Run.Execute

namespace Reftest.Run

/-- Opens a page and waits until the browser has ended, which it must do without complaint. -/
def openPage (browser : String) (arguments : List String) (url : String) : Stage Unit := do
  let program ← find browser
  Stage.tell .debug .viewer ("Opening " ++ url ++ " with " ++ program.shown)
  let ending ← start program (arguments.map Octets.ofText ++ [Octets.ofText url]) .inherited
    (.viewerLaunch browser)
  if ending.succeeded then Stage.done ()
  else Stage.fail (.viewerFailed browser (ending.code.map Int.ofNat))

end Reftest.Run
