/-
# The fixed texts of the command line

What the tool says about itself: its name and version, and how it is called.
-/

namespace Transcompiler.Help

/-- The terms of use, as the tool prints them. -/
def license : String := "License is GNU General Public License (GPL) version 3.0"

/-- The version of the tool. -/
def version : String := "Version 1.0 Released August 2019"

/-- The name of the tool and its owner. -/
def release : String :=
  "Zep - ZeptoN Echo Transcompiler\n" ++
    "(C) Copyright 2019 William F. Gilreath. All Rights Reserved"

/-- The form of an invocation. -/
def usage : String :=
  "Usage:  zep (option)* [ -javac (javac-options)+ ] (ZeptoN-file)+ | ( -help | -info )"

/-- What each option does. -/
def options : String :=
  String.join
    [ "\n",
      "  ZeptoN Compiler OPTIONS:\n",
      "\n",
      "  Compiler Options:  [ -echo ] | [ -final ] | [ -time ]\n",
      "\n",
      "    -echo        Print ZeptoN compiler options and success or failure.\n",
      "    -final       Compile final release without debug information.\n",
      "    -time        Print total time for success compiling of a source file.\n",
      "\n",
      "  Error Reporting Option: [ -brief | -hush | -mute ]\n",
      "\n",
      "    -brief       Print only a brief count of compiler messages.\n",
      "    -hush        Disable all compiler messages except errors.\n",
      "    -mute        Disable all compiler messages.\n",
      "\n",
      "  Help or Version Option:  ( -help | -? ) | ( -info | -v )\n",
      "\n",
      "    -help        Print list of compiler options and exit.\n",
      "    -info        Print compiler version information and exit.\n",
      "\n",
      "  Note: All options for -javac are passed as-is to the compiler.\n" ]

end Transcompiler.Help
