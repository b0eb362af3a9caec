import NoxAssist.Builtin.Registry

namespace NoxAssist.Builtin

def functionWith (type name : String) (parameters : List String) (brief detail : String) :
    Builtin :=
  let shown := type ++ " " ++ name ++ "(" ++ ", ".intercalate parameters ++ ")"
  ⟨name, shown, brief, detail, ⟨shown, parameters⟩⟩

def function (type name : String) (parameters : List String) (brief : String) : Builtin :=
  functionWith type name parameters brief brief

def catalogue : List Builtin :=
  [ functionWith "void" "Print" ["string message"]
      "Print a message to the local console."
      ("Shows the message in the console of the player that triggered the script. "
        ++ "Use PrintToAll to reach every player."),
    function "void" "PrintToAll" ["string message"] "Print a message to every player.",
    functionWith "void" "Wait" ["int frames"]
      "Suspend the script for a number of frames."
      "The game runs at 30 frames per second.",
    function "void" "WaitSeconds" ["int seconds"] "Suspend the script for a number of seconds.",
    function "void" "SecondTimer" ["int seconds", "int function"]
      "Call a function after a delay in seconds.",
    function "void" "FrameTimer" ["int frames", "int function"]
      "Call a function after a delay in frames.",
    function "int" "Random" ["int min", "int max"]
      "Random integer in the inclusive range [min, max].",
    function "float" "RandomFloat" ["float min", "float max"]
      "Random float in the range [min, max].",
    function "object" "GetTrigger" [] "Object that triggered the current script.",
    function "object" "GetCaller" [] "Object that called the current script.",
    function "object" "GetHost" [] "Player object of the host.",
    function "object" "Object" ["string name"] "Look up a map object by its script name.",
    function "int" "Waypoint" ["string name"] "Look up a waypoint by its script name.",
    function "int" "ObjectGroup" ["string name"] "Look up an object group by name.",
    function "int" "WaypointGroup" ["string name"] "Look up a waypoint group by name.",
    function "int" "WallGroup" ["string name"] "Look up a wall group by name.",
    function "int" "Wall" ["int x", "int y"] "Wall at the given grid coordinates.",
    function "float" "GetObjectX" ["object unit"] "X coordinate of an object.",
    function "float" "GetObjectY" ["object unit"] "Y coordinate of an object.",
    function "float" "GetWaypointX" ["int waypoint"] "X coordinate of a waypoint.",
    function "float" "GetWaypointY" ["int waypoint"] "Y coordinate of a waypoint.",
    function "void" "MoveObject" ["object unit", "float x", "float y"]
      "Teleport an object to a location.",
    function "void" "MoveWaypoint" ["int waypoint", "float x", "float y"]
      "Move a waypoint to a location.",
    functionWith "object" "CreateObject" ["string type", "int waypoint"]
      "Spawn an object of the given type at a waypoint."
      "Returns the new object so it can be stored or moved.",
    function "object" "CreateObjectAt" ["string type", "float x", "float y"]
      "Spawn an object at a location.",
    function "void" "Delete" ["object unit"] "Remove an object from the map.",
    function "void" "ObjectOn" ["object unit"] "Enable an object.",
    function "void" "ObjectOff" ["object unit"] "Disable an object.",
    function "void" "ObjectToggle" ["object unit"]
      "Toggle an object between enabled and disabled.",
    function "int" "IsObjectOn" ["object unit"] "Whether an object is enabled.",
    functionWith "void" "Enchant" ["object unit", "string name", "float duration"]
      "Apply an enchantment for a duration in seconds."
      "A duration of 0 makes the enchantment permanent.",
    function "void" "EnchantOff" ["object unit", "string name"] "Remove an enchantment.",
    function "int" "HasEnchant" ["object unit", "string name"]
      "Whether an object carries an enchantment.",
    function "int" "CurrentHealth" ["object unit"] "Current health of an object.",
    function "int" "MaxHealth" ["object unit"] "Maximum health of an object.",
    function "void" "RestoreHealth" ["object unit", "int amount"] "Heal an object.",
    function "void" "Damage" ["object target", "object source", "int amount", "int type"]
      "Deal damage of a given type.",
    function "float" "Distance" ["float x1", "float y1", "float x2", "float y2"]
      "Distance between two points.",
    function "void" "Effect" ["string name", "float x1", "float y1", "float x2", "float y2"]
      "Play a visual effect between two points.",
    function "void" "AudioEvent" ["string name", "int waypoint"] "Play a sound at a waypoint.",
    function "void" "Music" ["int track", "int volume"] "Change the background music.",
    function "void" "UnlockDoor" ["object door"] "Unlock a door.",
    function "void" "LockDoor" ["object door"] "Lock a door.",
    function "void" "WallOpen" ["int wall"] "Open a wall.",
    function "void" "WallClose" ["int wall"] "Close a wall.",
    function "void" "LookAtObject" ["object unit", "object target"]
      "Turn an object to face another.",
    function "int" "IsCaller" ["object unit"] "Whether the object is the script caller.",
    function "int" "IsTrigger" ["object unit"] "Whether the object is the script trigger.",
    function "void" "GiveXp" ["object player", "int amount"] "Grant experience to a player.",
    function "int" "FloatToInt" ["float value"] "Truncate a float to an integer.",
    function "float" "IntToFloat" ["int value"] "Convert an integer to a float.",
    function "string" "IntToString" ["int value"] "Format an integer as a string."]

end NoxAssist.Builtin

namespace NoxAssist

def Registry.bundled : Registry :=
  match Registry.ofList Builtin.catalogue with
  | .ok registry => registry
  | .error _ => Registry.empty

end NoxAssist
