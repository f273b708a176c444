import LootScript.Extension.Registry
import LootScript.Json.Double

/-!
# The built-in registry

Four base scripts are always at hand: three for creatures, one of which extends another, and one
for a chest.
-/
namespace LootScript

namespace Builtin

def text (key value : String) : String × Json := (key, .str value)

/-- The double `coefficient * 10 ^ exponent`. -/
def number (coefficient : Nat) (exponent : Int) : Json :=
  ((Double.ofDecimal? false coefficient exponent).map .double).getD .null

/-- A drop with a name that stands for itself. -/
def named (kind name : String) (more : List (String × Json)) : Json :=
  .obj ([text "type" ("minecraft:" ++ kind), text "name" ("minecraft:" ++ name)] ++ more)

def empty : Json := .obj [text "type" "minecraft:empty"]

def uniformCount (low high : Nat) : Json :=
  .obj [text "function" "minecraft:set_count",
    ("count", .obj [("min", number low 0), ("max", number high 0),
      text "type" "minecraft:uniform"])]

def creeper : Json :=
  .obj [text "type" "minecraft:entity",
    ("pools", .obj [
      ("minecraft:gunpowder", named "item" "gunpowder" [
        ("functions", .arr [uniformCount 0 2,
          .obj [text "function" "minecraft:looting_enchant",
            ("count", .obj [("min", number 0 0), ("max", number 1 0)])]])]),
      ("minecraft:music_disc", named "tag" "creeper_drop_music_discs" [
        ("conditions", .arr [
          .obj [text "condition" "minecraft:entity_properties",
            ("predicate", .obj [text "type" "#minecraft:skeletons"]),
            text "entity" "killer"]])])])]

def zombie : Json :=
  .obj [text "type" "minecraft:entity",
    ("pools", .obj [
      ("minecraft:rotten_flesh", named "item" "rotten_flesh" [
        ("functions", .arr [uniformCount 0 2])]),
      ("minecraft:rare_drop", .obj [
        ("unsafe", .bool true),
        text "type" "minecraft:alternatives",
        ("children", .arr [
          named "item" "iron_ingot" [], named "item" "carrot" [], named "item" "potato" []]),
        ("conditions", .arr [
          .obj [text "condition" "minecraft:killed_by_player"],
          .obj [text "condition" "minecraft:random_chance_with_looting",
            ("chance", number 25 (-3)), ("looting_multiplier", number 1 (-2))]])])])]

def husk : Json :=
  .obj [text "type" "minecraft:entity",
    text "extend" "minecraft:entities/zombie",
    ("pools", .obj [("minecraft:sand", empty)]),
    ("remove", .arr [.str "minecraft:sand"])]

def simpleDungeon : Json :=
  .obj [text "type" "minecraft:chest",
    ("pools", .obj [
      ("minecraft:loot", .obj [
        ("unsafe", .bool true),
        text "type" "minecraft:group",
        ("children", .arr [
          named "item" "saddle" [], named "item" "golden_apple" [],
          named "loot_table" "chests/village/village_weaponsmith" [], empty])])])]

def registry : Registry :=
  .ofList [
    (⟨"minecraft", "entities/creeper"⟩, creeper),
    (⟨"minecraft", "entities/zombie"⟩, zombie),
    (⟨"minecraft", "entities/husk"⟩, husk),
    (⟨"minecraft", "chests/simple_dungeon"⟩, simpleDungeon)]

end Builtin

end LootScript
