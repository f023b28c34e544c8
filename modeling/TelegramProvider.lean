import TelegramProvider.Runs
import TelegramProvider.Table
import TelegramProvider.Td
import TelegramProvider.Sip
import TelegramProvider.Context
import TelegramProvider.Actions
import TelegramProvider.DialTg
import TelegramProvider.Machine
import TelegramProvider.Bridge
import TelegramProvider.Outcome
import TelegramProvider.Crashes
import TelegramProvider.Gateway
import TelegramProvider.Contacts
import TelegramProvider.Legs
import TelegramProvider.Contexts
import TelegramProvider.Teardown
import TelegramProvider.Escape
import TelegramProvider.Loop
import TelegramProvider.Lag
import TelegramProvider.CallTable
import TelegramProvider.Attribution
import TelegramProvider.Histories
import TelegramProvider.Forwarding
import TelegramProvider.Answering
import TelegramProvider.ErrorQueue
import TelegramProvider.Records
import TelegramProvider.Controller
import TelegramProvider.Saving
import TelegramProvider.TelegramAuth
import TelegramProvider.Lines
import TelegramProvider.Messages
import TelegramProvider.Flood
import TelegramProvider.FloodDelay
import TelegramProvider.Callee
import TelegramProvider.Numerals
import TelegramProvider.Json
import TelegramProvider.Keyboard
import TelegramProvider.Entries
import TelegramProvider.Cron
import TelegramProvider.Launcher
import TelegramProvider.CStrings
import TelegramProvider.Ini
import TelegramProvider.Credentials
import TelegramProvider.IniSettings
import TelegramProvider.StatusFile
import TelegramProvider.Dialogue
import TelegramProvider.Prompts
import TelegramProvider.Deadlines
import TelegramProvider.Expiring
import TelegramProvider.Listener
import TelegramProvider.Collisions
import TelegramProvider.LeftKeyboards
import TelegramProvider.Throttle
import TelegramProvider.AutoAnswer
import TelegramProvider.Dtmf
import TelegramProvider.Agent
import TelegramProvider.SentKeyboards
import TelegramProvider.LastAnswers
import TelegramProvider.Bot
import TelegramProvider.Cards
import TelegramProvider.Presses
import TelegramProvider.Requests
import TelegramProvider.GenDb
import TelegramProvider.TgClient
import TelegramProvider.Mealy
import TelegramProvider.Conversations
import TelegramProvider.Passing
import TelegramProvider.Queues
import TelegramProvider.Directory
import TelegramProvider.Pools
import TelegramProvider.JitterBuffer
import TelegramProvider.JitterRuns
import TelegramProvider.Playback
import TelegramProvider.PlaybackRuns
import TelegramProvider.Capture
import TelegramProvider.Acks
import TelegramProvider.ByteStreams
import TelegramProvider.ExtraData
import TelegramProvider.Reliability
import TelegramProvider.ReliabilityRuns
import TelegramProvider.Deliveries
import TelegramProvider.CallExtras
import TelegramProvider.Datagram
import TelegramProvider.DatagramRuns
