/-
# The fixed Java text around a unit

Every generated class has the same imports, the same private static members that
a program may call without naming a class, and the same frame around its entry
point: the frame sets the arguments up, reports an exception that nothing caught,
closes the streams and ends the process. All of it is free of line feeds.
-/

import Transcompiler.Text.Basic

namespace Transcompiler.Scaffold

/-- What stands in front of the name of the class. -/
def classHeader : Text := "public final class".toList

/-- The imports of the generated class. -/
def imports : Text :=
  "import java.io.*; import java.math.*; import java.net.*; import java.util.*;  ".toList

/-- The fields of the generated class, and the members that set them up and close
them. A text that is long stands in several pieces. -/
def stateMembers : List String :=
  [ "private final static char[] EMPTY_CHAR = new char[0]; ",
    "private final static String EMPTY_STRING = new String(); ",
    "private final static char NULL_CHAR = Character.MIN_VALUE; ",
    "private static String[] argv = new String[0]; ",
    "private final static PrintStream out_str = System.out; ",
    "private final static InputStream inp_str = System.in; ",
    "private final static PrintStream err_str = System.err; ",
    "private final static Console con = System.console(); ",
    "private final static Runtime run = Runtime.getRuntime(); ",
    "private final static Scanner scan = new Scanner(System.in); ",
    "private final static void init(final String[] args)\x7bargv=args;\x7d",
    "private final static void deinit()\x7btry\x7bout_str.flush();out_str.close();",
      "err_str.flush();err_str.close();inp_str.close();\x7d",
    "catch (Exception ex)\x7berr_str.println(ex.getMessage());ex.printStackTrace(err_str);",
      "\x7d\x7d" ]

/-- The members that read from the standard input and the console. -/
def inputMembers : List String :=
  [ "private final static String readLine(final String fmt, final Object... ",
      "args)\x7bif(con==null)\x7breturn EMPTY_STRING;\x7d return con.readLine(fmt,args);\x7d ",
    "private final static char[] readPassword(String fmt,Object... args)\x7bif ",
      "(con==null)\x7breturn EMPTY_CHAR;\x7d return con.readPassword(fmt,args);\x7d ",
    "private final static char[] readPassword()\x7bif(con==null)\x7breturn EMPTY_CHAR;\x7d ",
      "return con.readPassword();\x7d ",
    "private final static BigDecimal readBigDecimal()\x7breturn scan.nextBigDecimal();\x7d",
    "private final static BigInteger readBigInteger()\x7breturn scan.nextBigInteger();\x7d",
    "private final static boolean readBoolean()\x7breturn scan.nextBoolean();\x7d",
    "private final static byte readByte()\x7breturn scan.nextByte();\x7d",
    "private final static int readInt()\x7breturn scan.nextInt();\x7d",
    "private final static long readLong()\x7breturn scan.nextLong();\x7d",
    "private final static short readShort()\x7breturn scan.nextShort();\x7d",
    "private final static double readDouble()\x7breturn scan.nextDouble();\x7d",
    "private final static float readFloat()\x7breturn scan.nextFloat();\x7d",
    "private final static String readString()\x7btry\x7breturn scan.next();\x7dcatch (Exception ",
      "ex)\x7berr_str.println(ex.getMessage());ex.printStackTrace(err_str);\x7d return ",
      "EMPTY_STRING;\x7d ",
    "private final static char readChar()\x7bchar chr;try\x7bchr = (char) inp_str.read();",
      "\x7dcatch (Exception ex)\x7bchr = NULL_CHAR;\x7d return chr;\x7d",
    "private final static String readLine()\x7bString line = EMPTY_STRING;try\x7bline = ",
      "scan.nextLine();\x7dcatch (Exception ex)\x7bline = EMPTY_STRING;\x7d return line;\x7d" ]

/-- The members that print. -/
def outputMembers : List String :=
  [ "private final static void printf(final String fmt,final Object... ",
      "param)\x7bout_str.printf(fmt,param);\x7d ",
    "private final static void errorf(final String fmt,final Object...param)\x7berr_str.printf(f",
      "mt,param);\x7d",
    "private final static void print(final char[] param)\x7bout_str.print(param);\x7d",
    "private final static void print(final BigDecimal param)\x7bout_str.print(param.toPlainStrin",
      "g());\x7d",
    "private final static void print(final BigInteger param)\x7bout_str.print(param.toString());",
      "\x7d",
    "private final static void print(final boolean param)\x7bout_str.print(param);\x7d",
    "private final static void print(final byte param)\x7bout_str.print(param);\x7d",
    "private final static void print(final char param)\x7bout_str.print(param);\x7d",
    "private final static void print(final double param)\x7bout_str.print(param);\x7d",
    "private final static void print(final float param)\x7bout_str.print(param);\x7d",
    "private final static void print(final int param)\x7bout_str.print(param);\x7d",
    "private final static void print(final long param)\x7bout_str.print(param);\x7d",
    "private final static void print(final Object param)\x7bout_str.print(param);\x7d",
    "private final static void print(final short param)\x7bout_str.print(param);\x7d",
    "private final static void print(final String param)\x7bout_str.print(param);\x7d",
    "private final static void println()\x7bout_str.println();\x7d",
    "private final static void println(final char[] param)\x7bout_str.println(param);\x7d ",
    "private final static void println(final BigDecimal param)\x7bout_str.println(param.toPlainS",
      "tring());\x7d",
    "private final static void println(final BigInteger param)\x7bout_str.println(param.toString",
      "());\x7d",
    "private final static void println(final boolean param)\x7bout_str.println(param);\x7d ",
    "private final static void println(final byte param)\x7bout_str.println(param);\x7d",
    "private final static void println(final char param)\x7bout_str.println(param);\x7d",
    "private final static void println(final double param)\x7bout_str.println(param);\x7d",
    "private final static void println(final float param)\x7bout_str.println(param);\x7d",
    "private final static void println(final int param)\x7bout_str.println(param);\x7d",
    "private final static void println(final long param)\x7bout_str.println(param);\x7d",
    "private final static void println(final Object param)\x7bout_str.println(param);\x7d",
    "private final static void println(final short param)\x7bout_str.println(param);\x7d",
    "private final static void println(final String param)\x7bout_str.println(param);\x7d" ]

/-- The members that ask the virtual machine and the system, and those that turn
arrays into text. -/
def environmentMembers : List String :=
  [ "private final static void exit(final int code)\x7brun.exit(code);\x7d",
    "private final static void gc()\x7brun.gc();\x7d",
    "private final static long freeMemory()\x7breturn run.freeMemory();\x7d",
    "private final static long maxMemory()\x7breturn run.maxMemory();\x7d",
    "private final static long totalMemory()\x7breturn run.totalMemory();\x7d",
    "private final static long currentTimeMillis()\x7breturn System.currentTimeMillis();\x7d",
    "private final static long nanoTime()\x7breturn System.nanoTime();\x7d",
    "private final static Locale getLocale()\x7breturn scan.locale();\x7d",
    "private final static void arraycopy(final Object src,final int srcPos,Object dst,final int ",
      "dstPost,final int len)\x7bSystem.arraycopy(src,srcPos,dst,dstPost,len);\x7d ",
    "private final static String getenv(final String param)\x7breturn System.getenv(param);\x7d",
    "private final static int identityHashCode(final Object obj)\x7breturn ",
      "System.identityHashCode(obj);\x7d",
    "private final static String getProperty(final String param)\x7breturn ",
      "System.getProperty(param);\x7d",
    "private final static Runtime getRuntime()\x7breturn run;\x7d",
    "private final static Console console()\x7breturn con;\x7d",
    "private final static String[] getArgs()\x7breturn argv;\x7d",
    "private final static String toString(final boolean[] param)\x7breturn ",
      "Arrays.toString(param);\x7d",
    "private final static String toString(final byte[] param)\x7breturn Arrays.toString(param);",
      "\x7d",
    "private final static String toString(final char[] param)\x7breturn Arrays.toString(param);",
      "\x7d",
    "private final static String toString(final double[] param)\x7breturn ",
      "Arrays.toString(param);\x7d",
    "private final static String toString(final float[] param)\x7breturn Arrays.toString(param);",
      "\x7d",
    "private final static String toString(final int[] param)\x7breturn Arrays.toString(param);",
      "\x7d",
    "private final static String toString(final long[] param)\x7breturn Arrays.toString(param);",
      "\x7d",
    "private final static String toString(final short[] param)\x7breturn Arrays.toString(param);",
      "\x7d",
    "private final static String toString(final Object[] param)\x7breturn ",
      "Arrays.toString(param);\x7d",
    "private final static String valueOf(final char[] param)\x7breturn String.valueOf(param);",
      "\x7d",
    "private final static void nop()\x7b;\x7d" ]

/-- The members that every generated class has, in the order of their text. -/
def supportMembers : List String :=
  stateMembers ++ inputMembers ++ outputMembers ++ environmentMembers

/-- The text of the support members, on one line and followed by a
space. -/
def support : Text :=
  supportMembers.flatMap String.toList ++ [' ']

/-- The new name of a `main` that the unit declares itself. -/
def renamedMain : Text := "_$main".toList

/-- How an exception that reaches the entry point is reported at run time. -/
def uncaughtFormat : Text := "Uncaught ZeptoN Program Exception: '%s' is '%s'.%n".toList

/-- What stands for `begin`: the support members, a private constructor, and the
opening of the entry point. -/
def prologue (programName : Text) : Text :=
  support ++ " private ".toList ++ programName ++
    "()\x7b\x7d public static void main(String[] _$args)\x7b try \x7b init(_$args); ".toList

/-- What stands for the last closing brace: the end of the entry point and of the
class. -/
def epilogue : Text :=
  "\x7dcatch(Exception _$ex)\x7b System.out.printf(\"".toList ++ uncaughtFormat ++
    "\", _$ex.getClass().getName(), _$ex.getMessage()); ".toList ++
    "\x7dfinally\x7b deinit(); System.exit(0);\x7d  \x7d \x7d".toList

end Transcompiler.Scaffold
